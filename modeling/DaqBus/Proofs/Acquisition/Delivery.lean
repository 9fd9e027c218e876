import DaqBus.Proofs.Acquisition.Totals

/-!
# Delivering blocks

The sink is called once for every block of a completed sweep, in the order of the channels, and
whatever it answers is looked at only when the sweep is over. So the calls alone say where a run
stands: the state of the sink is what they make of it, the counters count them, and whether a further
sweep is due can be read off the answers.
-/

namespace DaqBus

variable {τ : Type}

/-! ### Calls of a sink -/

namespace Sink

/-- The state of a sink after calls with blocks and their channels, in order. -/
def after (sink : Sink τ) (state : τ) (calls : List (Block × Nat)) : τ :=
  calls.foldl (fun state call => (sink call.2 call.1 state).2) state

def replies (sink : Sink τ) : τ → List (Block × Nat) → List Reply
  | _, [] => []
  | state, (block, channel) :: rest =>
    (sink channel block state).1 :: replies sink (sink channel block state).2 rest

theorem after_concat (sink : Sink τ) (state : τ) (calls : List (Block × Nat)) (block : Block)
    (channel : Nat) :
    sink.after state (calls ++ [(block, channel)]) =
      (sink channel block (sink.after state calls)).2 := by
  rw [after, List.foldl_append]
  rfl

theorem replies_concat (sink : Sink τ) (state : τ) (calls : List (Block × Nat)) (block : Block)
    (channel : Nat) :
    sink.replies state (calls ++ [(block, channel)]) =
      sink.replies state calls ++ [(sink channel block (sink.after state calls)).1] := by
  induction calls generalizing state with
  | nil => rfl
  | cons call calls ih =>
      rw [List.cons_append, replies, ih, replies]
      rfl

end Sink

/-- The calls that completed sweeps make: every block with the index of its channel. -/
def deliveries (sweeps : List (List Block)) : List (Block × Nat) :=
  sweeps.flatMap fun blocks => blocks.zipIdx

theorem deliveries_concat (sweeps : List (List Block)) (blocks : List Block) :
    deliveries (sweeps ++ [blocks]) = deliveries sweeps ++ blocks.zipIdx := by
  rw [deliveries, List.flatMap_append, List.flatMap_singleton]
  rfl

theorem length_deliveries {sweeps : List (List Block)} {n : Nat}
    (hlength : ∀ blocks ∈ sweeps, blocks.length = n) :
    (deliveries sweeps).length = sweeps.length * n := by
  induction sweeps with
  | nil => rw [List.length_nil, Nat.zero_mul]; rfl
  | cons blocks sweeps ih =>
      have hrest := ih fun later hmem => hlength later (List.mem_cons_of_mem _ hmem)
      rw [deliveries] at hrest ⊢
      rw [List.flatMap_cons, List.length_append, hrest, List.length_zipIdx,
        hlength blocks List.mem_cons_self, List.length_cons, Nat.succ_mul, Nat.add_comm]

/-- A further sweep is due: the limit is not reached, nobody has raised the stop flag, and the sink
has broken off in no sweep so far. -/
structure Due (maxSweeps : Option UInt64) (stopped : Bool) (done : Nat) (replies : List Reply) :
    Prop where
  below : ∀ limit, maxSweeps = some limit → done < limit.toNat
  running : stopped = false ∧ ∀ reply ∈ replies, reply.stops = false
  unbroken : ∀ reply ∈ replies, reply.breaks = false

/-! ### Delivering -/

namespace Run

variable {run : Run τ} {sink : Sink τ} {stopped : Bool} {state : τ} {channels done : Nat}
  {calls : List (Block × Nat)}

/-- The run stands where some completed sweeps, or the start of one more, have brought it. -/
structure Follows (run : Run τ) (sink : Sink τ) (stopped : Bool) (state : τ) (channels done : Nat)
    (calls : List (Block × Nat)) : Prop where
  sink_eq : run.sink = sink.after state calls
  stopped_eq : run.stopped = (stopped || (sink.replies state calls).any Reply.stops)
  broken_eq : run.broken = (sink.replies state calls).any Reply.breaks
  last_eq : ∀ channel, run.last.find? channel = (sequences calls channel).getLast?
  counts : run.Counts (RunTotals.ofCalls channels done calls)

theorem follows_start (sink : Sink τ) (stopped : Bool) (state : τ) (channels : Nat) :
    ({ stopped, sink := state } : Run τ).Follows sink stopped state channels 0 [] where
  sink_eq := rfl
  stopped_eq := (Bool.or_false _).symm
  broken_eq := rfl
  last_eq _ := rfl
  counts := by
    rw [RunTotals.ofCalls_nil]
    exact ⟨rfl, iff_of_true rfl (by constructor <;> decide)⟩

/-- One call. -/
theorem Follows.deliver (h : run.Follows sink stopped state channels done calls) {channel : Nat}
    (hchannel : channel < channels) (block : Block) :
    (run.deliver sink channel block).2.Follows sink stopped state channels done
      (calls ++ [(block, channel)]) := by
  constructor
  · show (sink channel block run.sink).2 = _
    rw [Sink.after_concat, h.sink_eq]
  · show (run.stopped || (sink channel block run.sink).1.stops) = _
    rw [Sink.replies_concat, h.stopped_eq, h.sink_eq, List.any_append, List.any_cons, List.any_nil,
      Bool.or_false, Bool.or_assoc]
  · show (run.broken || (sink channel block run.sink).1.breaks) = _
    rw [Sink.replies_concat, h.broken_eq, h.sink_eq, List.any_append, List.any_cons, List.any_nil,
      Bool.or_false]
  · intro other
    show (run.last.insert channel block.header.sequence).find? other = _
    rw [Table.find?_insert, sequences_concat]
    by_cases hother : other = channel
    · rw [if_pos hother, if_pos hother, List.getLast?_concat]
    · rw [if_neg hother, if_neg hother, List.append_nil, h.last_eq]
  · rw [RunTotals.ofCalls_concat hchannel, ← h.last_eq]
    have hcounts := h.counts.count { (sequenceStep channel (run.last.find? channel)
      block.header.sequence).2 with
        blocks := 1
        samples := block.samples.length
        alarmedBlocks := (alarmStep channel block.header).length }
    exact ⟨hcounts.counters_eq, hcounts.overflowed_iff⟩

/-- The calls of one sweep. -/
theorem Follows.deliverAll (h : run.Follows sink stopped state channels done calls) {channel : Nat}
    (blocks : List Block) (hbound : channel + blocks.length ≤ channels) :
    (run.deliverAll sink channel blocks).2.Follows sink stopped state channels done
      (calls ++ blocks.zipIdx channel) := by
  induction blocks generalizing run calls channel with
  | nil =>
      rw [List.zipIdx_nil, List.append_nil]
      exact h
  | cons block blocks ih =>
      rw [List.length_cons] at hbound
      rw [List.zipIdx_cons, List.append_cons]
      exact ih (h.deliver (by omega) block) (by omega)

theorem Follows.countSweep (h : run.Follows sink stopped state channels done calls) :
    run.countSweep.Follows sink stopped state channels (done + 1) calls where
  sink_eq := h.sink_eq
  stopped_eq := h.stopped_eq
  broken_eq := h.broken_eq
  last_eq := h.last_eq
  counts := h.counts.count { sweeps := 1 }

/-- All of a sweep. -/
theorem Follows.sweep (h : run.Follows sink stopped state channels done calls) {blocks : List Block}
    (hlength : blocks.length = channels) :
    (run.deliverAll sink 0 blocks).2.countSweep.Follows sink stopped state channels (done + 1)
      (calls ++ blocks.zipIdx) :=
  (h.deliverAll blocks (by omega)).countSweep

theorem sweeps_deliverAll (run : Run τ) (sink : Sink τ) (channel : Nat) (blocks : List Block) :
    (run.deliverAll sink channel blocks).2.counters.sweeps = run.counters.sweeps := by
  induction blocks generalizing run channel with
  | nil => rfl
  | cons block blocks ih =>
      refine (ih (run.deliver sink channel block).2 (channel + 1)).trans ?_
      show run.counters.sweeps + .ofNat (sequenceStep channel _ _).2.sweeps = _
      rw [sweeps_sequenceStep]
      exact UInt64.add_zero _

/-- A limit can be told from the counter, since no more sweeps are completed than it allows. -/
theorem Follows.isOver_eq_false_iff (h : run.Follows sink stopped state channels done calls)
    {maxSweeps : Option UInt64} (hdone : ∀ limit, maxSweeps = some limit → done ≤ limit.toNat) :
    run.isOver maxSweeps = false ↔ Due maxSweeps stopped done (sink.replies state calls) := by
  have hsweeps : run.counters.sweeps = .ofNat done := congrArg RunCounters.sweeps h.counts.counters_eq
  have hlimit : (maxSweeps.any fun limit => limit ≤ run.counters.sweeps) = false ↔
      ∀ limit, maxSweeps = some limit → done < limit.toNat := by
    cases maxSweeps with
    | none => simp
    | some limit =>
        have hfits : done < UInt64.size := Nat.lt_of_le_of_lt (hdone limit rfl) limit.toNat_lt_size
        simp [hsweeps, UInt64.le_iff_toNat_le, Nat.mod_eq_of_lt hfits]
  rw [isOver, h.stopped_eq, h.broken_eq]
  simp only [Bool.or_eq_false_iff, List.any_eq_false, Bool.not_eq_true, hlimit]
  constructor
  · rintro ⟨⟨hrunning, hunbroken⟩, hbelow⟩
    exact ⟨hbelow, hrunning, hunbroken⟩
  · intro hdue
    exact ⟨⟨hdue.running, hdue.unbroken⟩, hdue.below⟩

/-- What a sweep adds to the log after its reads. -/
def sweepEvents (run : Run τ) (sink : Sink τ) (blocks : List Block) : List Event :=
  (run.deliverAll sink 0 blocks).1 ++
    if (run.deliverAll sink 0 blocks).2.broken then [.stopRequested] else []

end Run

end DaqBus

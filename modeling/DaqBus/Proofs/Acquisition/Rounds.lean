import DaqBus.Proofs.Acquisition.Delivery
import DaqBus.Proofs.Channel.Sweep
import DaqBus.Proofs.Stream.Consuming

/-!
# The rounds of an acquisition

A run is unfolded one sweep at a time, and what every completed sweep keeps holds where it ends. The
number of rounds a run is given never shows: it is the limit, or more than the control stream of the
first channel can serve.
-/

namespace DaqBus

variable {S τ : Type} [Backend S]

omit [Backend S] in
theorem Bus.foldl_record (events : List Event) (bus : Bus S) :
    events.foldl (fun bus event => bus.record event) bus =
      { bus with log := bus.log ++ events } := by
  induction events generalizing bus with
  | nil => rw [List.append_nil]; rfl
  | cons event events ih =>
      rw [List.foldl_cons, ih]
      show ({ bus with log := (bus.log ++ [event]) ++ events } : Bus S) = _
      rw [List.append_assoc]
      rfl

namespace ChannelSet

variable {set : ChannelSet} {maxSweeps : Option UInt64} {sink : Sink τ}

/-! ### Sweeping -/

theorem sweeps_of_over {run : Run τ} (hover : run.isOver maxSweeps = true) (rounds : Nat)
    (bus : Bus S) :
    set.sweeps maxSweeps sink rounds run bus = ((.finished run.counters, run), bus) := by
  cases rounds with
  | zero => rw [sweeps, if_pos hover]
  | succ rounds => rw [sweeps, if_pos hover]

theorem sweeps_zero {run : Run τ} (hover : run.isOver maxSweeps = false) (bus : Bus S) :
    set.sweeps maxSweeps sink 0 run bus = ((.unfinished, run), bus) := by
  rw [sweeps, if_neg (by rw [hover]; decide)]

theorem sweeps_of_error {run : Run τ} (hover : run.isOver maxSweeps = false) (rounds : Nat)
    {bus after : Bus S} {failure : BusError} (hread : set.readBlocks bus = (.error failure, after)) :
    set.sweeps maxSweeps sink (rounds + 1) run bus = ((.failed failure, run), after) := by
  rw [sweeps, if_neg (by rw [hover]; decide), hread]

theorem sweeps_of_ok {run : Run τ} (hover : run.isOver maxSweeps = false) (rounds : Nat)
    {bus after : Bus S} {blocks : List Block} (hread : set.readBlocks bus = (.ok blocks, after)) :
    set.sweeps maxSweeps sink (rounds + 1) run bus =
      set.sweeps maxSweeps sink rounds (run.deliverAll sink 0 blocks).2.countSweep
        { after with log := after.log ++ run.sweepEvents sink blocks } := by
  rw [sweeps, if_neg (by rw [hover]; decide), hread]
  simp only [Bus.foldl_record]
  congr 1
  rw [Run.sweepEvents]
  by_cases hbroken : (run.deliverAll sink 0 blocks).2.broken
  · rw [if_pos hbroken, if_pos hbroken, Bus.record, List.append_assoc]
  · rw [if_neg hbroken, if_neg hbroken, List.append_nil]

/-- **Sweep by sweep.** What every completed sweep keeps holds where the run ends, and there either no
sweep is wanted, or one fails, or the rounds are used up. -/
theorem sweeps_induction {motive : Run τ → List (List Block) → Bus S → Prop}
    (hsweep : ∀ run sweeps bus blocks after, motive run sweeps bus →
      run.isOver maxSweeps = false → set.readBlocks bus = (.ok blocks, after) →
      motive (run.deliverAll sink 0 blocks).2.countSweep (sweeps ++ [blocks])
        { after with log := after.log ++ run.sweepEvents sink blocks })
    (rounds : Nat) {run : Run τ} {sweeps : List (List Block)} {bus : Bus S}
    (hstart : motive run sweeps bus) :
    ∃ final done last, motive final done last ∧
      ((final.isOver maxSweeps = true ∧
          set.sweeps maxSweeps sink rounds run bus = ((.finished final.counters, final), last)) ∨
        (∃ failure after, final.isOver maxSweeps = false ∧
          set.readBlocks last = (.error failure, after) ∧
          set.sweeps maxSweeps sink rounds run bus = ((.failed failure, final), after)) ∨
        (final.isOver maxSweeps = false ∧
          set.sweeps maxSweeps sink rounds run bus = ((.unfinished, final), last))) := by
  induction rounds generalizing run sweeps bus with
  | zero =>
      refine ⟨run, sweeps, bus, hstart, ?_⟩
      cases hover : run.isOver maxSweeps with
      | true => exact .inl ⟨rfl, sweeps_of_over hover 0 bus⟩
      | false => exact .inr (.inr ⟨rfl, sweeps_zero hover bus⟩)
  | succ rounds ih =>
      cases hover : run.isOver maxSweeps with
      | true => exact ⟨run, sweeps, bus, hstart, .inl ⟨hover, sweeps_of_over hover _ bus⟩⟩
      | false =>
          rcases hread : set.readBlocks bus with ⟨failure | blocks, after⟩
          · refine ⟨run, sweeps, bus, hstart, .inr (.inl ⟨failure, after, hover, hread, ?_⟩)⟩
            exact sweeps_of_error hover rounds hread
          · rw [sweeps_of_ok hover rounds hread]
            exact ih (hsweep run sweeps bus blocks after hstart hover hread)

/-! ### Around the sweeps -/

variable {stopped : Bool} {state : τ} {run : Run τ}

theorem acquire_of_finished {bus after : Bus S} {counters : RunCounters}
    (hsweeps : set.sweeps maxSweeps sink
        (set.roundsLeft maxSweeps
          (bus.record (.runStarted set.node.deviceName set.channels.length maxSweeps)))
        { stopped, sink := state }
        (bus.record (.runStarted set.node.deviceName set.channels.length maxSweeps)) =
      ((.finished counters, run), after)) :
    set.acquire maxSweeps stopped sink state bus =
      ((.finished counters, run), after.record (.runFinished counters)) := by
  unfold acquire
  simp only [hsweeps]

theorem acquire_of_ended {bus after : Bus S} {outcome : RunOutcome}
    (hsweeps : set.sweeps maxSweeps sink
        (set.roundsLeft maxSweeps
          (bus.record (.runStarted set.node.deviceName set.channels.length maxSweeps)))
        { stopped, sink := state }
        (bus.record (.runStarted set.node.deviceName set.channels.length maxSweeps)) =
      ((outcome, run), after)) (hended : ∀ counters, outcome ≠ .finished counters) :
    set.acquire maxSweeps stopped sink state bus = ((outcome, run), after) := by
  unfold acquire
  simp only [hsweeps]
  cases outcome with
  | finished counters => exact absurd rfl (hended counters)
  | failed failure => rfl
  | unfinished => rfl

section Rounds

variable [ReadsConsume S]

theorem readsLeft_readBlock_le (channel : Channel) (other : StreamId) (bus : Bus S) :
    ByteStream.readsLeft ((Backend.lens other).view (channel.readBlock bus).2.store) ≤
      ByteStream.readsLeft ((Backend.lens other).view bus.store) := by
  have hstore := Backend.readsLeft_readBlock_le channel.streams other bus.store
  rcases channel.readBlock_cases bus with ⟨failure, h⟩ | ⟨failure, h⟩ | ⟨raw, block, -, -, h⟩
  · exact Nat.le_of_eq (by rw [h])
  · rw [h]
    exact hstore
  · rw [h]
    exact hstore

theorem readsLeft_readBlock_lt {channel : Channel} {bus : Bus S} {block : Block}
    (hread : (channel.readBlock bus).1 = .ok block) :
    ByteStream.readsLeft
        ((Backend.lens channel.streams.control).view (channel.readBlock bus).2.store) <
      ByteStream.readsLeft ((Backend.lens channel.streams.control).view bus.store) := by
  rcases channel.readBlock_cases bus with ⟨failure, h⟩ | ⟨failure, h⟩ | ⟨raw, other, hraw, -, h⟩
  · rw [h] at hread
    cases hread
  · rw [h] at hread
    cases hread
  · rw [h]
    exact Backend.readsLeft_readBlock_lt hraw

theorem readsLeft_mapM_le (channels : List Channel) (other : StreamId) (bus : Bus S) :
    ByteStream.readsLeft
        ((Backend.lens other).view (channels.mapM Channel.readBlock bus).2.store) ≤
      ByteStream.readsLeft ((Backend.lens other).view bus.store) := by
  induction channels generalizing bus with
  | nil => exact Nat.le_refl _
  | cons channel channels ih =>
      have hfirst := readsLeft_readBlock_le channel other bus
      rw [mapM_readBlock_cons]
      generalize channel.readBlock bus = result at hfirst ⊢
      obtain ⟨failure | block, next⟩ := result
      · exact hfirst
      have hrest := Nat.le_trans (ih next) hfirst
      dsimp only
      generalize channels.mapM Channel.readBlock next = result at hrest ⊢
      obtain ⟨failure | blocks, last⟩ := result
      · exact hrest
      · exact hrest

theorem readsLeft_readBlocks_lt {channel : Channel} {rest : List Channel}
    (hchannels : set.channels = channel :: rest) {bus after : Bus S} {blocks : List Block}
    (hread : set.readBlocks bus = (.ok blocks, after)) :
    ByteStream.readsLeft ((Backend.lens channel.streams.control).view after.store) <
      ByteStream.readsLeft ((Backend.lens channel.streams.control).view bus.store) := by
  rw [readBlocks, hchannels, mapM_readBlock_cons] at hread
  have hfirst : ∀ block, (channel.readBlock bus).1 = .ok block → _ :=
    fun block => readsLeft_readBlock_lt
  generalize channel.readBlock bus = result at hread hfirst
  obtain ⟨failure | block, next⟩ := result
  · cases hread
  have hrest := readsLeft_mapM_le rest channel.streams.control next
  dsimp only at hread
  generalize rest.mapM Channel.readBlock next = result at hread hrest
  obtain ⟨failure | others, last⟩ := result
  · cases hread
  · cases hread
    exact Nat.lt_of_le_of_lt hrest (hfirst block rfl)

omit [ReadsConsume S] in
/-- As many rounds are enough as something allows that every sweep takes from. -/
theorem sweeps_ne_unfinished (measure : Run τ → Bus S → Nat)
    (hpositive : ∀ run bus, run.isOver maxSweeps = false → 0 < measure run bus)
    (hless : ∀ run bus blocks after, run.isOver maxSweeps = false →
      set.readBlocks bus = (.ok blocks, after) →
      measure (run.deliverAll sink 0 blocks).2.countSweep
        { after with log := after.log ++ run.sweepEvents sink blocks } < measure run bus)
    {rounds : Nat} {run : Run τ} {bus : Bus S} (hrounds : measure run bus ≤ rounds) :
    (set.sweeps maxSweeps sink rounds run bus).1.1 ≠ .unfinished := by
  induction rounds generalizing run bus with
  | zero =>
      cases hover : run.isOver maxSweeps with
      | true =>
          rw [sweeps_of_over hover]
          exact RunOutcome.noConfusion
      | false =>
          have hleft := hpositive run bus hover
          omega
  | succ rounds ih =>
      cases hover : run.isOver maxSweeps with
      | true =>
          rw [sweeps_of_over hover]
          exact RunOutcome.noConfusion
      | false =>
          rcases hread : set.readBlocks bus with ⟨failure | blocks, after⟩
          · rw [sweeps_of_error hover rounds hread]
            exact RunOutcome.noConfusion
          · -- One round less, and something less to take from.
            have htaken := hless run bus blocks after hover hread
            rw [sweeps_of_ok hover rounds hread]
            apply ih
            omega

omit [Backend S] [ReadsConsume S] in
/-- Below a limit there is room for one more sweep. -/
theorem toNat_sweeps_sweep {limit : UInt64} {run : Run τ} (hover : run.isOver (some limit) = false)
    (sink : Sink τ) (blocks : List Block) :
    run.counters.sweeps.toNat < limit.toNat ∧
      (run.deliverAll sink 0 blocks).2.countSweep.counters.sweeps.toNat =
        run.counters.sweeps.toNat + 1 := by
  simp only [Run.isOver, Option.any_some, Bool.or_eq_false_iff, decide_eq_false_iff_not,
    UInt64.not_le] at hover
  have hbelow : run.counters.sweeps.toNat < limit.toNat := hover.2
  have hlimit := limit.toNat_lt_size
  refine ⟨hbelow, ?_⟩
  show ((run.deliverAll sink 0 blocks).2.counters.sweeps + .ofNat 1).toNat = _
  rw [Run.sweeps_deliverAll, UInt64.toNat_add]
  exact Nat.mod_eq_of_lt (Nat.lt_of_le_of_lt hbelow hlimit)

omit [ReadsConsume S] in
theorem sweeps_ne_unfinished_of_limit {limit : UInt64} {run : Run τ} {bus : Bus S}
    {rounds : Nat} (hrounds : limit.toNat - run.counters.sweeps.toNat ≤ rounds) :
    (set.sweeps (some limit) sink rounds run bus).1.1 ≠ .unfinished := by
  refine sweeps_ne_unfinished (fun run _ => limit.toNat - run.counters.sweeps.toNat) ?_ ?_ hrounds
  · intro run bus hover
    have hless := (toNat_sweeps_sweep hover sink []).1
    omega
  · intro run bus blocks after hover hread
    obtain ⟨hless, hnext⟩ := toNat_sweeps_sweep hover sink blocks
    rw [hnext]
    omega

/-- The control stream of the first channel ends in time. -/
theorem sweeps_ne_unfinished_of_channel {channel : Channel} {rest : List Channel}
    (hchannels : set.channels = channel :: rest) {run : Run τ} {bus : Bus S} {rounds : Nat}
    (hrounds : ByteStream.readsLeft ((Backend.lens channel.streams.control).view bus.store) <
      rounds) :
    (set.sweeps maxSweeps sink rounds run bus).1.1 ≠ .unfinished := by
  refine sweeps_ne_unfinished (fun _ bus =>
    ByteStream.readsLeft ((Backend.lens channel.streams.control).view bus.store) + 1) ?_ ?_ hrounds
  · intro run bus _
    exact Nat.succ_pos _
  · intro run bus blocks after _ hread
    have hless := readsLeft_readBlocks_lt hchannels hread
    exact Nat.succ_lt_succ hless

/-- Rounds run short only where there is nothing to read and no limit. -/
theorem endless_of_unfinished {run : Run τ} {bus : Bus S}
    (hunfinished :
      (set.sweeps maxSweeps sink (set.roundsLeft maxSweeps bus) run bus).1.1 = .unfinished) :
    maxSweeps = none ∧ set.channels = [] := by
  cases maxSweeps with
  | some limit =>
      exact absurd hunfinished (sweeps_ne_unfinished_of_limit (Nat.sub_le _ _))
  | none =>
      cases hchannels : set.channels with
      | nil => exact ⟨rfl, rfl⟩
      | cons channel rest =>
          refine absurd hunfinished (sweeps_ne_unfinished_of_channel hchannels ?_)
          simp only [roundsLeft, hchannels]
          exact Nat.lt_succ_self _

end Rounds

end ChannelSet

end DaqBus

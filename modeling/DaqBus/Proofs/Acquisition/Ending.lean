import DaqBus.Proofs.Acquisition.Sweeps

/-!
# How an acquisition ends

On queues that nobody fills meanwhile, every sweep costs each control queue one whole record. So a set
with a channel runs out of sweeps, with or without a limit. A set without channels costs nothing, and its
sweeps end only at a limit or by the stop flag.
-/

namespace DaqBus

open Control

/-- A transfer that succeeds takes a whole record from the control queue. -/
theorem MemoryBus.length_control_readBlock {store : MemoryBus} {streams : ChannelStreams}
    {raw : RawBlock} (hread : (Backend.readBlock streams store).1 = .ok raw) :
    ((Backend.readBlock streams store).2.waiting streams).control.length + recordSize ≤
      (store.waiting streams).control.length := by
  rcases Backend.readBlock_cases streams store with
    ⟨code, h⟩ | ⟨code, h⟩ | ⟨control, limit, hcontrol, hlength, h⟩
  · rw [h] at hread
    cases hread
  · rw [h] at hread
    cases hread
  · let next := ((queue streams.control).readUpTo recordSize store).2
    have hrecord : ((store.waiting streams).control.take recordSize).length = recordSize := by
      have htake := Lens.ok_of_run hcontrol
      rw [Queue.readUpTo_eq] at htake
      cases htake
      exact hlength
    have hnext : (next.waiting streams).control = (store.waiting streams).control.drop recordSize := by
      have hview := view_readUpTo streams.control recordSize store
      rw [Queue.readUpTo_eq] at hview
      exact congrArg Queue.bytes hview
    have hdata : ((Backend.readBlock streams store).2.waiting streams).control.length ≤
        (next.waiting streams).control.length := by
      rw [h]
      exact Backend.readsLeft_readUpTo_le streams.data streams.control limit next
    rw [hnext, List.length_drop] at hdata
    rw [List.length_take] at hrecord
    omega

namespace Channel

variable {channel other : Channel} {bus : Bus MemoryBus}

/-- How many bytes wait on the control queue. -/
def controlLeft (channel : Channel) (bus : Bus MemoryBus) : Nat :=
  (channel.waiting bus).control.length

theorem controlLeft_readBlock_le (channel other : Channel) (bus : Bus MemoryBus) :
    other.controlLeft (channel.readBlock bus).2 ≤ other.controlLeft bus :=
  ChannelSet.readsLeft_readBlock_le channel other.streams.control bus

theorem controlLeft_readBlock_of_ok {block : Block} (hread : (channel.readBlock bus).1 = .ok block) :
    channel.controlLeft (channel.readBlock bus).2 + recordSize ≤ channel.controlLeft bus := by
  rcases channel.readBlock_cases bus with ⟨failure, h⟩ | ⟨failure, h⟩ | ⟨raw, found, hraw, -, h⟩
  · rw [h] at hread
    cases hread
  · rw [h] at hread
    cases hread
  · rw [h]
    exact MemoryBus.length_control_readBlock hraw

end Channel

namespace ChannelSet

variable {τ : Type} {set : ChannelSet} {maxSweeps : Option UInt64} {sink : Sink τ} {run : Run τ}

/-! ### Sweeps -/

section Queues

variable {channels : List Channel} {channel : Channel} {bus after : Bus MemoryBus} {blocks : List Block}

theorem controlLeft_mapM_le (channels : List Channel) (channel : Channel) (bus : Bus MemoryBus) :
    channel.controlLeft (channels.mapM Channel.readBlock bus).2 ≤ channel.controlLeft bus :=
  readsLeft_mapM_le channels channel.streams.control bus

/-- A sweep costs every control queue a whole record. -/
theorem controlLeft_mapM_of_ok (hread : (channels.mapM Channel.readBlock bus).1 = .ok blocks)
    (hmem : channel ∈ channels) :
    channel.controlLeft (channels.mapM Channel.readBlock bus).2 + recordSize ≤
      channel.controlLeft bus := by
  induction channels generalizing bus blocks with
  | nil => cases hmem
  | cons first channels ih =>
      cases hfirst : (first.readBlock bus).1 with
      | error failure =>
          rw [mapM_readBlock_of_error hfirst] at hread
          cases hread
      | ok block =>
          rw [mapM_readBlock_of_ok hfirst] at hread ⊢
          dsimp only at hread ⊢
          rcases List.mem_cons.mp hmem with rfl | hmem
          · have htaken := Channel.controlLeft_readBlock_of_ok hfirst
            have hrest := controlLeft_mapM_le channels channel (channel.readBlock bus).2
            omega
          · cases hrest : (channels.mapM Channel.readBlock (first.readBlock bus).2).1 with
            | error failure =>
                rw [hrest] at hread
                cases hread
            | ok others =>
                have htaken := ih hrest hmem
                have hkept := Channel.controlLeft_readBlock_le first channel bus
                omega

theorem controlLeft_readBlocks (hread : set.readBlocks bus = (.ok blocks, after))
    (hmem : channel ∈ set.channels) :
    channel.controlLeft after + recordSize ≤ channel.controlLeft bus := by
  have htaken := controlLeft_mapM_of_ok (congrArg Prod.fst hread) hmem
  rwa [show set.channels.mapM Channel.readBlock bus = _ from hread] at htaken

/-- All sweeps together cost a control queue no more than waits there. -/
theorem mul_sweeps_le {stopped : Bool} {state : τ} {start last : Bus MemoryBus}
    {sweeps : List (List Block)} (h : set.Swept maxSweeps stopped sink state start sweeps last)
    (hmem : channel ∈ set.channels) :
    recordSize * sweeps.length + channel.controlLeft last ≤ channel.controlLeft start := by
  induction h with
  | nil => exact Nat.le_of_eq (Nat.zero_add _)
  | @concat sweeps blocks before after events earlier due read sweep ih =>
      -- One more sweep is counted, and the record that pays for it has left the queue.
      have htaken : channel.controlLeft after + recordSize ≤ channel.controlLeft before :=
        controlLeft_readBlocks read hmem
      show recordSize * (sweeps ++ [blocks]).length + channel.controlLeft after ≤ _
      rw [List.length_append, List.length_singleton, Nat.mul_add, Nat.mul_one]
      omega

end Queues

section Loop

variable {S : Type} [Backend S] {bus : Bus S}

/-- Where sweeps have ended by themselves, more rounds change nothing. -/
theorem sweeps_of_le {rounds more : Nat} (hle : rounds ≤ more)
    (hended : (set.sweeps maxSweeps sink rounds run bus).1.1 ≠ .unfinished) :
    set.sweeps maxSweeps sink more run bus = set.sweeps maxSweeps sink rounds run bus := by
  induction rounds generalizing more run bus with
  | zero =>
      cases hover : run.isOver maxSweeps with
      | true => rw [sweeps_of_over hover, sweeps_of_over hover]
      | false =>
          rw [sweeps_zero hover] at hended
          exact absurd rfl hended
  | succ rounds ih =>
      cases hover : run.isOver maxSweeps with
      | true => rw [sweeps_of_over hover, sweeps_of_over hover]
      | false =>
          obtain ⟨more, rfl⟩ := Nat.exists_eq_succ_of_ne_zero (Nat.ne_zero_of_lt hle)
          rcases hread : set.readBlocks bus with ⟨failure | blocks, after⟩
          · rw [sweeps_of_error hover rounds hread, sweeps_of_error hover more hread]
          · rw [sweeps_of_ok hover rounds hread] at hended ⊢
            rw [sweeps_of_ok hover more hread]
            exact ih (Nat.le_of_succ_le_succ hle) hended

theorem isOver_of_finished {rounds : Nat} {final : Run τ} {counters : RunCounters} {after : Bus S}
    (hsweeps : set.sweeps maxSweeps sink rounds run bus = ((.finished counters, final), after)) :
    final.isOver maxSweeps = true := by
  induction rounds generalizing run bus with
  | zero =>
      cases hover : run.isOver maxSweeps with
      | true =>
          rw [sweeps_of_over hover] at hsweeps
          cases hsweeps
          exact hover
      | false =>
          rw [sweeps_zero hover] at hsweeps
          cases hsweeps
  | succ rounds ih =>
      cases hover : run.isOver maxSweeps with
      | true =>
          rw [sweeps_of_over hover] at hsweeps
          cases hsweeps
          exact hover
      | false =>
          rcases hread : set.readBlocks bus with ⟨failure | blocks, next⟩
          · rw [sweeps_of_error hover rounds hread] at hsweeps
            cases hsweeps
          · rw [sweeps_of_ok hover rounds hread] at hsweeps
            exact ih hsweeps

/-- Sweeps without channels, a limit and a stop go on. -/
theorem sweeps_of_no_channels (hchannels : set.channels = []) (hrunning : run.stopped = false)
    (hunbroken : run.broken = false) (rounds : Nat) :
    (set.sweeps none sink rounds run bus).1.1 = .unfinished := by
  induction rounds generalizing run bus with
  | zero =>
      have hover : run.isOver none = false := by simp [Run.isOver, hrunning, hunbroken]
      rw [sweeps_zero hover]
  | succ rounds ih =>
      have hover : run.isOver none = false := by simp [Run.isOver, hrunning, hunbroken]
      have hread : set.readBlocks bus = (.ok [], bus) := by
        rw [readBlocks, hchannels]
        rfl
      rw [sweeps_of_ok hover rounds hread]
      exact ih hrunning hunbroken

/-! ### Runs -/

variable {stopped : Bool} {state : τ}

/-- The sweeps of an acquisition as far as a number of rounds goes. -/
def acquireFor (set : ChannelSet) (maxSweeps : Option UInt64) (stopped : Bool) (sink : Sink τ)
    (state : τ) (rounds : Nat) (bus : Bus S) : (RunOutcome × Run τ) × Bus S :=
  set.sweeps maxSweeps sink rounds { stopped, sink := state }
    (bus.record (.runStarted set.node.deviceName set.channels.length maxSweeps))

/-- The sweeps of an acquisition end by themselves, and so they do however many rounds there are. -/
def EndsWith (set : ChannelSet) (maxSweeps : Option UInt64) (stopped : Bool) (sink : Sink τ)
    (state : τ) (bus : Bus S) (outcome : RunOutcome) (run : Run τ) : Prop :=
  outcome ≠ .unfinished ∧ ∃ enough after, ∀ rounds, enough ≤ rounds →
    set.acquireFor maxSweeps stopped sink state rounds bus = ((outcome, run), after)

theorem endsWith_of_rounds (rounds : Nat)
    (hended : (set.acquireFor maxSweeps stopped sink state rounds bus).1.1 ≠ .unfinished) :
    set.EndsWith maxSweeps stopped sink state bus
      (set.acquireFor maxSweeps stopped sink state rounds bus).1.1
      (set.acquireFor maxSweeps stopped sink state rounds bus).1.2 :=
  ⟨hended, rounds, _, fun _ hle => sweeps_of_le hle hended⟩

/-- The answer of a run is that of its sweeps. -/
theorem fst_acquire (set : ChannelSet) (maxSweeps : Option UInt64) (stopped : Bool) (sink : Sink τ)
    (state : τ) (bus : Bus S) :
    (set.acquire maxSweeps stopped sink state bus).1 =
      (set.acquireFor maxSweeps stopped sink state (set.roundsLeft maxSweeps
        (bus.record (.runStarted set.node.deviceName set.channels.length maxSweeps))) bus).1 := by
  let started := bus.record (.runStarted set.node.deviceName set.channels.length maxSweeps)
  rcases hsweeps : set.acquireFor maxSweeps stopped sink state (set.roundsLeft maxSweeps started) bus
    with ⟨⟨outcome, run⟩, after⟩
  cases outcome with
  | finished counters => rw [acquire_of_finished hsweeps]
  | failed failure => rw [acquire_of_ended hsweeps nofun]
  | unfinished => rw [acquire_of_ended hsweeps nofun]

/-- The counter of sweeps counts completed ones. -/
theorem exists_swept (set : ChannelSet) (maxSweeps : Option UInt64) (stopped : Bool) (sink : Sink τ)
    (state : τ) (rounds : Nat) (bus : Bus S) :
    ∃ sweeps last,
      set.Swept maxSweeps stopped sink state
        (bus.record (.runStarted set.node.deviceName set.channels.length maxSweeps)) sweeps last ∧
      (set.acquireFor maxSweeps stopped sink state rounds bus).1.2.counters.sweeps =
        .ofNat sweeps.length := by
  let started := bus.record (.runStarted set.node.deviceName set.channels.length maxSweeps)
  obtain ⟨run, sweeps, last, hreached, hend⟩ :=
    set.sweeps_induction (motive := set.Reached maxSweeps stopped sink state started)
      (fun _ _ _ _ _ h hover hread => h.sweep hover hread) rounds
      (reached_start set maxSweeps stopped sink state started)
  have hrun : (set.acquireFor maxSweeps stopped sink state rounds bus).1.2 = run := by
    unfold acquireFor
    rcases hend with ⟨-, heq⟩ | ⟨failure, after, -, -, heq⟩ | ⟨-, heq⟩ <;> rw [heq]
  refine ⟨sweeps, last, hreached.swept, ?_⟩
  rw [hrun, hreached.follows.counts.counters_eq]
  rfl

/-- Without a limit, what is neither stopped nor broken off can only fail. -/
theorem exists_failure_of_ended {rounds : Nat}
    (hended : (set.acquireFor none stopped sink state rounds bus).1.1 ≠ .unfinished)
    (hstopped : (set.acquireFor none stopped sink state rounds bus).1.2.stopped = false)
    (hbroken : (set.acquireFor none stopped sink state rounds bus).1.2.broken = false) :
    ∃ failure, (set.acquireFor none stopped sink state rounds bus).1.1 = .failed failure := by
  rcases hsweeps : set.acquireFor none stopped sink state rounds bus with ⟨⟨outcome, run⟩, after⟩
  rw [hsweeps] at hended hstopped hbroken
  cases outcome with
  | finished counters =>
      have hover := isOver_of_finished hsweeps
      simp only [Run.isOver, Option.any_none, Bool.or_false] at hover
      rw [hstopped, hbroken] at hover
      cases hover
  | failed failure => exact ⟨failure, rfl⟩
  | unfinished => exact absurd rfl hended

end Loop

theorem length_le_of_swept {stopped : Bool} {state : τ} {channel : Channel} {bus last : Bus MemoryBus}
    {sweeps : List (List Block)}
    (h : set.Swept maxSweeps stopped sink state
      (bus.record (.runStarted set.node.deviceName set.channels.length maxSweeps)) sweeps last)
    (hmem : channel ∈ set.channels) :
    sweeps.length ≤ (channel.waiting bus).control.length / recordSize := by
  rw [Nat.le_div_iff_mul_le (by decide), Nat.mul_comm]
  have hcost := mul_sweeps_le h hmem
  exact Nat.le_trans (Nat.le_add_right _ _) hcost

/-- **How an acquisition ends.** On a set with channels it always does, after no more completed sweeps than
whole records wait on any of them; without a limit, a stop and a break it fails. On a set without channels it
ends if there is a limit or the stop flag is up at the start, and otherwise no number of rounds is
enough. -/
theorem acquire_ends (set : ChannelSet) (maxSweeps : Option UInt64) (stopped : Bool) (sink : Sink τ)
    (state : τ) (bus : Bus MemoryBus) :
    (set.channels ≠ [] → ∃ outcome run,
      set.EndsWith maxSweeps stopped sink state bus outcome run ∧
      (set.acquire maxSweeps stopped sink state bus).1 = (outcome, run) ∧
      (∃ sweeps last,
        set.Swept maxSweeps stopped sink state
          (bus.record (.runStarted set.node.deviceName set.channels.length maxSweeps)) sweeps last ∧
        run.counters.sweeps = .ofNat sweeps.length ∧
        ∀ channel ∈ set.channels,
          sweeps.length ≤ (channel.waiting bus).control.length / recordSize) ∧
      (maxSweeps = none → run.stopped = false → run.broken = false →
        ∃ failure, outcome = .failed failure)) ∧
    (set.channels = [] →
      ((∃ outcome run, set.EndsWith maxSweeps stopped sink state bus outcome run) ↔
        maxSweeps ≠ none ∨ stopped = true) ∧
      (maxSweeps = none → stopped = false → ∀ rounds,
        (set.acquireFor maxSweeps stopped sink state rounds bus).1.1 = .unfinished)) := by
  have hendless (hchannels : set.channels = []) (hlimit : maxSweeps = none) (hstopped : stopped = false)
      (rounds : Nat) :
      (set.acquireFor maxSweeps stopped sink state rounds bus).1.1 = .unfinished := by
    subst hlimit hstopped
    exact sweeps_of_no_channels hchannels rfl rfl rounds
  refine ⟨fun hchannels => ?_, fun hchannels => ⟨⟨?_, ?_⟩, hendless hchannels⟩⟩
  · let rounds := set.roundsLeft maxSweeps
      (bus.record (.runStarted set.node.deviceName set.channels.length maxSweeps))
    have hended : (set.acquireFor maxSweeps stopped sink state rounds bus).1.1 ≠ .unfinished :=
      fun hunfinished => hchannels (endless_of_unfinished hunfinished).2
    have hanswer := set.fst_acquire maxSweeps stopped sink state bus
    refine ⟨_, _, endsWith_of_rounds rounds hended, hanswer, ?_, ?_⟩
    · obtain ⟨sweeps, last, hswept, hcounter⟩ :=
        set.exists_swept maxSweeps stopped sink state rounds bus
      exact ⟨sweeps, last, hswept, hcounter, fun channel hmem => length_le_of_swept hswept hmem⟩
    · intro hlimit
      subst hlimit
      exact exists_failure_of_ended hended
  · rintro ⟨outcome, run, hended, enough, after, henough⟩
    cases maxSweeps with
    | some limit => exact .inl nofun
    | none =>
        cases stopped with
        | true => exact .inr rfl
        | false =>
            have hunfinished := hendless hchannels rfl rfl enough
            rw [henough enough (Nat.le_refl _)] at hunfinished
            exact absurd hunfinished hended
  · rintro (hlimit | hstopped)
    · obtain ⟨limit, rfl⟩ := Option.ne_none_iff_exists'.mp hlimit
      exact ⟨_, _, endsWith_of_rounds _ (sweeps_ne_unfinished_of_limit (Nat.sub_le _ _))⟩
    · have hover : Run.isOver maxSweeps ({ stopped, sink := state } : Run τ) = true := by
        simp [Run.isOver, hstopped]
      refine ⟨_, _, endsWith_of_rounds 0 ?_⟩
      rw [acquireFor, sweeps_of_over hover]
      exact RunOutcome.noConfusion

/-- Three blocks wait on the only channel. -/
def threeWaiting : Bus MemoryBus :=
  Channel.benchInput.push (Block.encodeAll threeBlocks) Channel.bench

theorem acquire_ends_threeBlocks :
    (∃ failure run, benchSet.EndsWith none false keep [] threeWaiting (.failed failure) run ∧
      run.counters.sweeps = 3 ∧ ∃ sweeps : List (List Block),
        run.counters.sweeps = .ofNat sweeps.length ∧
        sweeps.length ≤ (Channel.benchInput.waiting threeWaiting).control.length / recordSize) ∧
    ∀ rounds, (({ benchSet with channels := [] } : ChannelSet).acquireFor none false keep [] rounds
      threeWaiting).1.1 = .unfinished := by
  obtain ⟨hsome, -⟩ := acquire_ends benchSet none false keep [] threeWaiting
  obtain ⟨-, hnone⟩ := acquire_ends { benchSet with channels := [] } none false keep [] threeWaiting
  have hacquire : (benchSet.acquire none false keep [] threeWaiting).1.2.stopped = false ∧
      (benchSet.acquire none false keep [] threeWaiting).1.2.broken = false ∧
      (benchSet.acquire none false keep [] threeWaiting).1.2.counters.sweeps = 3 := by
    decide +kernel
  obtain ⟨outcome, run, hends, hanswer, ⟨sweeps, -, -, hcounter, hbound⟩, hfails⟩ := hsome nofun
  rw [hanswer] at hacquire
  obtain ⟨hstopped, hbroken, hthree⟩ := hacquire
  obtain ⟨failure, rfl⟩ := hfails rfl hstopped hbroken
  exact ⟨⟨failure, run, hends, hthree, sweeps, hcounter, hbound _ (List.mem_singleton_self _)⟩,
    (hnone rfl).2 rfl rfl⟩

end ChannelSet

end DaqBus

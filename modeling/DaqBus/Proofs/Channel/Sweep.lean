import DaqBus.Proofs.Effect
import DaqBus.Tree.Channel

/-!
# Sweeps

A sweep reads every channel of a set once. It gives the blocks of all channels or the first failure;
whatever it gives, the log has nothing new in it but the reads themselves.
-/

namespace DaqBus

variable {S : Type} [Backend S]

namespace Channel

/-- A read is refused before the store is asked, or fails with what the store did, or delivers. -/
theorem readBlock_cases (channel : Channel) (bus : Bus S) :
    (∃ failure, channel.readBlock bus = (.error failure, bus)) ∨
      (∃ failure, channel.readBlock bus = (.error failure,
        { bus with store := (Backend.readBlock channel.streams bus.store).2 })) ∨
      ∃ raw block, (Backend.readBlock channel.streams bus.store).1 = .ok raw ∧
        Block.decode raw = .ok block ∧
        channel.readBlock bus = (.ok block,
          { bus with
            store := (Backend.readBlock channel.streams bus.store).2
            log := bus.log ++ [.blockRead channel.node.deviceName block.header.sequence
              block.header.sampleCount block.header.sampleSize] }) := by
  unfold readBlock Opening.check
  rw [Effect.bind_apply, Effect.bind_apply, Effect.get_apply]
  by_cases hclosed : bus.isClosed channel.opening.number
  · left
    simp only [hclosed, if_true, Effect.throw_apply]
    exact ⟨_, rfl⟩
  · right
    simp only [hclosed, Bool.false_eq_true, if_false, Effect.pure_apply, Effect.bind_apply,
      Bus.restate, Bus.onStore]
    generalize Backend.readBlock channel.streams bus.store = found
    obtain ⟨outcome, store⟩ := found
    cases outcome with
    | error code =>
        left
        exact ⟨_, rfl⟩
    | ok raw =>
        have hraw (f : Errno → BusError) : (Except.ok raw).mapError f = .ok raw := rfl
        simp only [hraw]
        cases hdecode : Block.decode raw with
        | error fault =>
            left
            exact ⟨_, rfl⟩
        | ok block =>
            right
            exact ⟨raw, block, rfl, hdecode, rfl⟩

theorem log_readBlock (channel : Channel) (bus : Bus S) :
    ∃ events, (channel.readBlock bus).2.log = bus.log ++ events ∧
      ∀ event ∈ events, event.level = .debug := by
  rcases channel.readBlock_cases bus with ⟨failure, h⟩ | ⟨failure, h⟩ | ⟨raw, block, -, -, h⟩
  · exact ⟨[], by rw [h, List.append_nil], fun event hmem => nomatch hmem⟩
  · exact ⟨[], by rw [h, List.append_nil], fun event hmem => nomatch hmem⟩
  · refine ⟨_, by rw [h], ?_⟩
    intro event hmem
    rw [List.mem_singleton.mp hmem]
    rfl

theorem closed_readBlock (channel : Channel) (bus : Bus S) :
    (channel.readBlock bus).2.closed = bus.closed := by
  rcases channel.readBlock_cases bus with ⟨_, h⟩ | ⟨_, h⟩ | ⟨_, _, -, -, h⟩ <;> rw [h]

/-- The bus after one read of every channel in order, whatever the reads gave. -/
def readThrough (channels : List Channel) (bus : Bus S) : Bus S :=
  channels.foldl (fun bus channel => (channel.readBlock bus).2) bus

end Channel

namespace ChannelSet

open Channel

theorem mapM_readBlock_cons (channel : Channel) (channels : List Channel) (bus : Bus S) :
    (channel :: channels).mapM Channel.readBlock bus =
      match channel.readBlock bus with
      | (.error failure, next) => (.error failure, next)
      | (.ok block, next) =>
        match channels.mapM Channel.readBlock next with
        | (.error failure, after) => (.error failure, after)
        | (.ok blocks, after) => (.ok (block :: blocks), after) := by
  rw [List.mapM_cons, Effect.bind_apply]
  rcases channel.readBlock bus with ⟨failure | block, next⟩
  · rfl
  · simp only [Effect.bind_apply]
    rcases channels.mapM Channel.readBlock next with ⟨failure | blocks, after⟩
    · rfl
    · rfl

theorem mapM_readBlock_of_error {channel : Channel} {bus : Bus S} {failure : BusError}
    (hread : (channel.readBlock bus).1 = .error failure) (channels : List Channel) :
    (channel :: channels).mapM Channel.readBlock bus =
      (.error failure, (channel.readBlock bus).2) := by
  rw [mapM_readBlock_cons, ← Prod.eta (channel.readBlock bus), hread]

theorem mapM_readBlock_of_ok {channel : Channel} {bus : Bus S} {block : Block}
    (hread : (channel.readBlock bus).1 = .ok block) (channels : List Channel) :
    (channel :: channels).mapM Channel.readBlock bus =
      ((channels.mapM Channel.readBlock (channel.readBlock bus).2).1.map (block :: ·),
        (channels.mapM Channel.readBlock (channel.readBlock bus).2).2) := by
  rw [mapM_readBlock_cons]
  generalize channel.readBlock bus = result at hread ⊢
  obtain ⟨outcome, next⟩ := result
  subst hread
  dsimp only
  rcases channels.mapM Channel.readBlock next with ⟨failure | blocks, after⟩ <;> rfl

/-- A sweep that succeeds: each block is what its channel gave, read on the bus that the channels
before it left. -/
structure Sweep (channels : List Channel) (before : Bus S) (blocks : List Block) (after : Bus S) :
    Prop where
  length : blocks.length = channels.length
  fresh : ∀ (i : Nat) (h : i < channels.length), ∃ block, blocks[i]? = some block ∧
    (channels[i].readBlock (readThrough (channels.take i) before)).1 = .ok block
  after : after = readThrough channels before

/-- A sweep that fails: some channel does, and those before it gave blocks. -/
def SweepFails (channels : List Channel) (before : Bus S) (failure : BusError) : Prop :=
  ∃ (i : Nat) (h : i < channels.length),
    (channels[i].readBlock (readThrough (channels.take i) before)).1 = .error failure ∧
      ∀ (j : Nat) (hj : j < i),
        ∃ block, (channels[j].readBlock (readThrough (channels.take j) before)).1 = .ok block

theorem sweep_of_mapM_readBlock {channels : List Channel} {before after : Bus S}
    {blocks : List Block} (hread : channels.mapM Channel.readBlock before = (.ok blocks, after)) :
    Sweep channels before blocks after := by
  induction channels generalizing before blocks with
  | nil =>
      cases hread
      exact ⟨rfl, fun i h => absurd h (Nat.not_lt_zero i), rfl⟩
  | cons channel channels ih =>
      rw [mapM_readBlock_cons] at hread
      rcases hfirst : channel.readBlock before with ⟨failure | block, next⟩
      · rw [hfirst] at hread
        cases hread
      have hnext : next = (channel.readBlock before).2 := by rw [hfirst]
      rw [hfirst] at hread
      rcases hrest : channels.mapM Channel.readBlock next with ⟨failure | rest, last⟩
      · simp only [hrest] at hread
        cases hread
      simp only [hrest] at hread
      cases hread
      have hsweep := ih hrest
      rw [hnext] at hsweep
      refine ⟨congrArg (· + 1) hsweep.length, ?_, hsweep.after⟩
      intro i hi
      cases i with
      | zero => exact ⟨block, rfl, congrArg Prod.fst hfirst⟩
      | succ i => exact hsweep.fresh i (Nat.lt_of_succ_lt_succ hi)

theorem sweepFails_of_mapM_readBlock {channels : List Channel} {before after : Bus S}
    {failure : BusError} (hread : channels.mapM Channel.readBlock before = (.error failure, after)) :
    SweepFails channels before failure := by
  induction channels generalizing before with
  | nil => cases hread
  | cons channel channels ih =>
      rw [mapM_readBlock_cons] at hread
      rcases hfirst : channel.readBlock before with ⟨other | block, next⟩
      · rw [hfirst] at hread
        cases hread
        refine ⟨0, Nat.zero_lt_succ _, congrArg Prod.fst hfirst, ?_⟩
        intro j hj
        exact absurd hj (Nat.not_lt_zero j)
      have hnext : next = (channel.readBlock before).2 := by rw [hfirst]
      rw [hfirst] at hread
      rcases hrest : channels.mapM Channel.readBlock next with ⟨other | rest, last⟩
      · simp only [hrest] at hread
        cases hread
        have hlater := ih hrest
        rw [hnext] at hlater
        obtain ⟨i, hi, hfailed, hearlier⟩ := hlater
        refine ⟨i + 1, Nat.succ_lt_succ hi, hfailed, ?_⟩
        intro j hj
        cases j with
        | zero => exact ⟨block, congrArg Prod.fst hfirst⟩
        | succ j => exact hearlier j (Nat.lt_of_succ_lt_succ hj)
      · simp only [hrest] at hread
        cases hread

theorem log_mapM_readBlock (channels : List Channel) (before : Bus S) :
    ∃ events, (channels.mapM Channel.readBlock before).2.log = before.log ++ events ∧
      ∀ event ∈ events, event.level = .debug := by
  induction channels generalizing before with
  | nil => exact ⟨[], (List.append_nil _).symm, fun event hmem => nomatch hmem⟩
  | cons channel channels ih =>
      obtain ⟨first, hfirst, hfirstLevel⟩ := channel.log_readBlock before
      rw [mapM_readBlock_cons]
      generalize channel.readBlock before = result at hfirst ⊢
      obtain ⟨failure | block, next⟩ := result
      · exact ⟨first, hfirst, hfirstLevel⟩
      obtain ⟨rest, hrest, hrestLevel⟩ := ih next
      refine ⟨first ++ rest, ?_, ?_⟩
      · dsimp only at hfirst ⊢
        rw [← List.append_assoc, ← hfirst, ← hrest]
        rcases channels.mapM Channel.readBlock next with ⟨failure | blocks, last⟩
        · rfl
        · rfl
      · intro event hmem
        exact (List.mem_append.mp hmem).elim (hfirstLevel event) (hrestLevel event)

end ChannelSet

end DaqBus

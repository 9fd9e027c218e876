import DaqBus.Proofs.Channel.Interleaving
import DaqBus.Proofs.Channel.Sweep
import DaqBus.Proofs.World.Wired
import Mathlib.Data.List.Forall2

/-!
# Sweeps that fail

A read of a channel goes by the bytes that wait on it and takes no others. So a sweep over the channels
of a device is made of the reads that each channel would have answered with by itself: up to the first
one that fails, each takes one block, and behind it nothing is taken.
-/

namespace DaqBus

open Control

theorem Samples.payloadLength_le_of_decode {h : Header} {payload : Bytes} {samples : Samples}
    (hdecode : Samples.decode h payload = .ok samples) : h.payloadLength ≤ payload.length := by
  rw [Samples.decode] at hdecode
  split_ifs at hdecode with hsize hshort
  exact Nat.not_lt.mp hshort

namespace RawBlock

variable {waiting raw rest : RawBlock}

theorem of_first (h : waiting.first = (.ok raw, rest)) :
    waiting = raw ++ rest ∧ raw.control.length = recordSize ∧
      raw.data.length ≤ announced raw.control := by
  rw [first] at h
  split at h
  next husable =>
    cases h
    refine ⟨?_, husable.1, ?_⟩
    · show waiting = ⟨waiting.control.take recordSize ++ waiting.control.drop recordSize,
        waiting.data.take _ ++ waiting.data.drop _⟩
      rw [List.take_append_drop, List.take_append_drop]
    · rw [List.length_take]
      exact Nat.min_le_left _ _
  next => cases h

theorem isWhole_of_decode {block : Block} (hlength : raw.control.length = recordSize)
    (hdata : raw.data.length ≤ announced raw.control) (hdecode : Block.decode raw = .ok block) :
    raw.IsWhole := by
  obtain ⟨hheader, hsamples⟩ := Block.decode_eq_ok_iff.mp hdecode
  refine ⟨hlength, Nat.le_antisymm hdata ?_⟩
  rw [Lane.announced_of_decode hheader]
  exact Samples.payloadLength_le_of_decode hsamples

end RawBlock

namespace Channel

variable {channel other : Channel} {bus after : Bus MemoryBus} {block : Block}

/-! ### One channel -/

/-- What a read answers and what it leaves, from the bytes that wait. -/
def readFrom (channel : Channel) (closed : Bool) (waiting : RawBlock) :
    Except BusError Block × RawBlock :=
  if closed then (.error (.deviceClosed channel.opening.base), waiting)
  else
    match channel.direction with
    | .input => (channel.readOutcome waiting.first.1, waiting.first.2)
    | .output => (.error (channel.readRefusal .wrongDirection), waiting)

theorem exists_readBlock_eq (h : bus.store.HasQueues channel.streams) :
    ∃ log, channel.readBlock bus =
      ((channel.readFrom (bus.isClosed channel.opening.number) (channel.waiting bus)).1,
        { channel.setWaiting
            (channel.readFrom (bus.isClosed channel.opening.number) (channel.waiting bus)).2 bus with
          log }) := by
  cases hclosed : bus.isClosed channel.opening.number with
  | true =>
      refine ⟨bus.log, ?_⟩
      rw [readFrom, if_pos rfl, setWaiting_waiting, readBlock]
      exact Effect.bind_of_error (Opening.check_of_closed hclosed)
  | false =>
      rw [readFrom, if_neg (by decide)]
      cases hdirection : channel.direction with
      | input =>
          obtain ⟨log, hread⟩ := readBlock_of_open hclosed
          refine ⟨log, ?_⟩
          rw [hread, MemoryBus.readBlock_eq h hdirection]
          rfl
      | output =>
          refine ⟨bus.log, ?_⟩
          rw [readBlock_of_output hclosed hdirection, setWaiting_waiting]

theorem fst_readBlock_eq (h : bus.store.HasQueues channel.streams) :
    (channel.readBlock bus).1 =
      (channel.readFrom (bus.isClosed channel.opening.number) (channel.waiting bus)).1 := by
  obtain ⟨log, hread⟩ := exists_readBlock_eq h
  rw [hread]

theorem waiting_readBlock_eq (h : bus.store.HasQueues channel.streams) :
    channel.waiting (channel.readBlock bus).2 =
      (channel.readFrom (bus.isClosed channel.opening.number) (channel.waiting bus)).2 := by
  obtain ⟨log, hread⟩ := exists_readBlock_eq h
  rw [hread]
  exact MemoryBus.waiting_setWaiting h _

theorem waiting_readBlock_of_apart (h : bus.store.HasQueues channel.streams)
    (hapart : channel.streams.Apart other.streams) :
    other.waiting (channel.readBlock bus).2 = other.waiting bus := by
  obtain ⟨log, hread⟩ := exists_readBlock_eq h
  rw [hread]
  exact MemoryBus.waiting_setWaiting_of_apart hapart _

theorem hasQueues_readBlock (h : bus.store.HasQueues channel.streams)
    (hother : bus.store.HasQueues other.streams) :
    (channel.readBlock bus).2.store.HasQueues other.streams := by
  obtain ⟨log, hread⟩ := exists_readBlock_eq h
  rw [hread]
  exact hother.setWaiting channel.streams _

theorem readBlock_of_same (h : bus.store.HasQueues channel.streams)
    (hafter : after.store.HasQueues channel.streams) (hclosed : after.closed = bus.closed)
    (hwaiting : channel.waiting after = channel.waiting bus) :
    (channel.readBlock after).1 = (channel.readBlock bus).1 ∧
      channel.waiting (channel.readBlock after).2 = channel.waiting (channel.readBlock bus).2 := by
  have hsame : after.isClosed channel.opening.number = bus.isClosed channel.opening.number := by
    rw [Bus.isClosed, Bus.isClosed, hclosed]
  rw [fst_readBlock_eq h, fst_readBlock_eq hafter, waiting_readBlock_eq h,
    waiting_readBlock_eq hafter, hsame, hwaiting]
  exact ⟨rfl, rfl⟩

/-- Between two buses exactly one block was taken from the front of the channel. -/
def Took (channel : Channel) (before after : Bus MemoryBus) (block : Block) : Prop :=
  channel.waiting before = block.encode ++ channel.waiting after

theorem encode_append_of_readFrom {closed : Bool} {waiting : RawBlock}
    (hread : (channel.readFrom closed waiting).1 = .ok block) :
    waiting = block.encode ++ (channel.readFrom closed waiting).2 := by
  cases closed with
  | true => cases hread
  | false =>
      rw [readFrom, if_neg (by decide)] at hread ⊢
      cases hdirection : channel.direction with
      | output =>
          rw [hdirection] at hread
          cases hread
      | input =>
          rw [hdirection] at hread
          obtain ⟨raw, hfirst, hdecode⟩ := readOutcome_eq_ok_iff.mp hread
          obtain ⟨hwaiting, hlength, hdata⟩ := RawBlock.of_first (Prod.ext hfirst rfl)
          rw [(RawBlock.isWhole_of_decode hlength hdata hdecode).encode_eq hdecode]
          exact hwaiting

theorem took_of_readBlock (h : bus.store.HasQueues channel.streams)
    (hread : (channel.readBlock bus).1 = .ok block) :
    channel.Took bus (channel.readBlock bus).2 block := by
  rw [fst_readBlock_eq h] at hread
  rw [Took, waiting_readBlock_eq h]
  exact encode_append_of_readFrom hread

/-! ### Several channels -/

/-- Every channel has queues, and no two of them share one. -/
structure AreWired (channels : List Channel) (bus : Bus MemoryBus) : Prop where
  hasQueues : ∀ channel ∈ channels, bus.store.HasQueues channel.streams
  apart : channels.Pairwise fun channel other => channel.streams.Apart other.streams

variable {channels : List Channel}

theorem AreWired.readBlock (h : AreWired (channel :: channels) bus) :
    AreWired channels (channel.readBlock bus).2 := by
  obtain ⟨hfirst, hrest⟩ := List.forall_mem_cons.mp h.hasQueues
  refine ⟨fun other hmem => ?_, (List.pairwise_cons.mp h.apart).2⟩
  exact hasQueues_readBlock hfirst (hrest other hmem)

theorem AreWired.readBlock_readBlock (h : AreWired (channel :: channels) bus)
    (hother : other ∈ channels) :
    (other.readBlock (channel.readBlock bus).2).1 = (other.readBlock bus).1 ∧
      other.waiting (other.readBlock (channel.readBlock bus).2).2 =
        other.waiting (other.readBlock bus).2 := by
  obtain ⟨hfirst, hrest⟩ := List.forall_mem_cons.mp h.hasQueues
  have hapart := (List.pairwise_cons.mp h.apart).1 other hother
  exact readBlock_of_same (hrest other hother) (hasQueues_readBlock hfirst (hrest other hother))
    (channel.closed_readBlock bus) (waiting_readBlock_of_apart hfirst hapart)

theorem AreWired.waiting_readBlock (h : AreWired (channel :: channels) bus)
    (hother : other ∈ channels) : other.waiting (channel.readBlock bus).2 = other.waiting bus :=
  waiting_readBlock_of_apart (h.hasQueues channel List.mem_cons_self)
    ((List.pairwise_cons.mp h.apart).1 other hother)

end Channel

namespace ChannelSet

open Channel

variable {bus : Bus MemoryBus} {channel : Channel} {channels : List Channel}

/-- A sweep over channels that share nothing with another one leaves that one alone. -/
theorem waiting_mapM_readBlock (hqueues : ∀ other ∈ channels, bus.store.HasQueues other.streams)
    (hapart : ∀ other ∈ channels, other.streams.Apart channel.streams) :
    channel.waiting (channels.mapM Channel.readBlock bus).2 = channel.waiting bus := by
  induction channels generalizing bus with
  | nil => rfl
  | cons first channels ih =>
      obtain ⟨hfirst, hrest⟩ := List.forall_mem_cons.mp hqueues
      obtain ⟨happart, hothers⟩ := List.forall_mem_cons.mp hapart
      have hwaiting := waiting_readBlock_of_apart hfirst happart
      cases hread : (first.readBlock bus).1 with
      | error failure => rw [mapM_readBlock_of_error hread, hwaiting]
      | ok block =>
          rw [mapM_readBlock_of_ok hread, ← hwaiting]
          exact ih (fun other hmem => hasQueues_readBlock hfirst (hrest other hmem)) hothers

theorem AreWired.waiting_mapM (h : AreWired (channel :: channels) bus) :
    channel.waiting (channels.mapM Channel.readBlock (channel.readBlock bus).2).2 =
      channel.waiting (channel.readBlock bus).2 :=
  waiting_mapM_readBlock h.readBlock.hasQueues fun other hmem =>
    ((List.pairwise_cons.mp h.apart).1 other hmem).symm

/-- What the channels behind the first one do, they would do without it. -/
theorem AreWired.took_of_readBlock (h : AreWired (channel :: channels) bus) {other : Channel}
    (hother : other ∈ channels) {block : Block} {after : Bus MemoryBus}
    (hread : (other.readBlock (channel.readBlock bus).2).1 = .ok block)
    (htook : other.Took (channel.readBlock bus).2 after block) :
    (other.readBlock bus).1 = .ok block ∧ other.Took bus after block := by
  rw [(h.readBlock_readBlock hother).1] at hread
  rw [Took, h.waiting_readBlock hother] at htook
  exact ⟨hread, htook⟩

theorem AreWired.took_first (h : AreWired (channel :: channels) bus) {block : Block}
    (hread : (channel.readBlock bus).1 = .ok block) :
    channel.Took bus (channels.mapM Channel.readBlock (channel.readBlock bus).2).2 block := by
  have htook := Channel.took_of_readBlock (h.hasQueues channel List.mem_cons_self) hread
  rw [Took] at htook ⊢
  rw [AreWired.waiting_mapM h]
  exact htook

theorem mapM_readBlock_of_all_ok (h : AreWired channels bus)
    (hall : ∀ channel ∈ channels, ∃ block, (channel.readBlock bus).1 = .ok block) :
    ∃ blocks after, channels.mapM Channel.readBlock bus = (.ok blocks, after) ∧
      List.Forall₂ (fun channel block =>
        (channel.readBlock bus).1 = .ok block ∧ channel.Took bus after block) channels blocks := by
  induction channels generalizing bus with
  | nil => exact ⟨[], bus, rfl, .nil⟩
  | cons channel channels ih =>
      obtain ⟨⟨block, hread⟩, hrest⟩ := List.forall_mem_cons.mp hall
      obtain ⟨blocks, after, hblocks, htook⟩ := ih h.readBlock fun other hmem => by
        rw [(h.readBlock_readBlock hmem).1]
        exact hrest other hmem
      have hfirst := AreWired.took_first h hread
      rw [hblocks] at hfirst
      refine ⟨block :: blocks, after, ?_, .cons ⟨hread, hfirst⟩ ?_⟩
      · rw [mapM_readBlock_of_ok hread, hblocks]
        rfl
      · have hmem := (List.forall₂_and_left (p := (· ∈ channels)) _ _).mpr ⟨fun _ hmem => hmem, htook⟩
        refine hmem.imp fun other found hboth => ?_
        exact AreWired.took_of_readBlock h hboth.1 hboth.2.1 hboth.2.2

theorem mapM_readBlock_of_first_error {earlier later : List Channel} {failure : BusError}
    (h : AreWired (earlier ++ channel :: later) bus)
    (hearlier : ∀ other ∈ earlier, ∃ block, (other.readBlock bus).1 = .ok block)
    (hread : (channel.readBlock bus).1 = .error failure) :
    ∃ after, (earlier ++ channel :: later).mapM Channel.readBlock bus = (.error failure, after) ∧
      (∀ other ∈ earlier, ∃ block,
        (other.readBlock bus).1 = .ok block ∧ other.Took bus after block) ∧
      channel.waiting after = channel.waiting (channel.readBlock bus).2 ∧
      ∀ other ∈ later, other.waiting after = other.waiting bus := by
  induction earlier generalizing bus with
  | nil =>
      have hstop := mapM_readBlock_of_error hread later
      refine ⟨(channel.readBlock bus).2, hstop, List.forall_mem_nil _, rfl, fun other hmem => ?_⟩
      exact h.waiting_readBlock hmem
  | cons first earlier ih =>
      rw [List.cons_append] at h ⊢
      obtain ⟨⟨block, hfirst⟩, hrest⟩ := List.forall_mem_cons.mp hearlier
      -- Behind the first read, every other channel finds what it would have found before it.
      have hchannel := h.readBlock_readBlock (List.mem_append_right earlier List.mem_cons_self)
      obtain ⟨after, hmapM, htook, hkept, hlater⟩ := ih h.readBlock
        (fun other hmem => by
          rw [(h.readBlock_readBlock (List.mem_append_left _ hmem)).1]
          exact hrest other hmem)
        (hchannel.1.trans hread)
      have hfirstTook := AreWired.took_first h hfirst
      rw [hmapM] at hfirstTook
      refine ⟨after, ?_, ?_, hkept.trans hchannel.2, ?_⟩
      · rw [mapM_readBlock_of_ok hfirst, hmapM]
        rfl
      · refine List.forall_mem_cons.mpr ⟨⟨block, hfirst, hfirstTook⟩, fun other hmem => ?_⟩
        obtain ⟨found, hfound, hother⟩ := htook other hmem
        exact ⟨found, AreWired.took_of_readBlock h (List.mem_append_left _ hmem) hfound hother⟩
      · intro other hmem
        have hbehind := List.mem_append_right earlier (List.mem_cons_of_mem channel hmem)
        rw [hlater other hmem, h.waiting_readBlock hbehind]

end ChannelSet

/-! ### Sets of granted devices -/

/-- The channels of a set of a granted device are wired, on every bus that has as many queues. -/
theorem World.Wired.areWired {w : World} (h : w.Wired) {device : Device} (hdevice : device ∈ w.granted)
    {set : ChannelSet} (hset : set ∈ device.sets) {bus : Bus MemoryBus}
    (hlength : w.bus.store.queues.length ≤ bus.store.queues.length) :
    Channel.AreWired set.channels bus := by
  obtain ⟨i, hi⟩ := List.mem_iff_getElem?.mp hset
  have hchannel (j : Nat) : device.channel? ⟨i, j⟩ = set.channels[j]? := by
    rw [Device.channel?, hi]
    rfl
  refine ⟨fun channel hmem => ?_, List.pairwise_iff_getElem.mpr fun j k hj hk hlt => ?_⟩
  · obtain ⟨j, hj⟩ := List.mem_iff_getElem?.mp hmem
    exact (h.hasQueues device hdevice ((hchannel j).trans hj)).of_length_le hlength
  · have hne : (⟨i, j⟩ : ChannelIndex) ≠ ⟨i, k⟩ := by
      intro heq
      cases heq
      exact Nat.lt_irrefl j hlt
    exact h.hasOwnStreams device hdevice hne ((hchannel j).trans (List.getElem?_eq_getElem hj))
      ((hchannel k).trans (List.getElem?_eq_getElem hk))

/-- **A sweep fails fast.** On a set of any device that was ever granted, with whatever waiting in the
queues: if every channel would give a block, the sweep gives these blocks in order, and each channel is
short of exactly its block. Otherwise the sweep fails as the first channel does that fails; the channels
before it are short of one block each, the channel itself of what its read takes, and those behind it of
nothing. -/
theorem readBlocks_fails_fast (deeds : List Deed) {device : Device}
    (hdevice : device ∈ ((World.start {}).run deeds).granted) {set : ChannelSet}
    (hset : set ∈ device.sets) {bus : Bus MemoryBus}
    (hlength : ((World.start {}).run deeds).bus.store.queues.length ≤ bus.store.queues.length) :
    ((∀ channel ∈ set.channels, ∃ block, (channel.readBlock bus).1 = .ok block) →
      ∃ blocks after, set.readBlocks bus = (.ok blocks, after) ∧
        List.Forall₂ (fun channel block =>
          (channel.readBlock bus).1 = .ok block ∧ channel.Took bus after block)
          set.channels blocks) ∧
    ∀ earlier channel later failure, set.channels = earlier ++ channel :: later →
      (∀ other ∈ earlier, ∃ block, (other.readBlock bus).1 = .ok block) →
      (channel.readBlock bus).1 = .error failure →
        ∃ after, set.readBlocks bus = (.error failure, after) ∧
          (∀ other ∈ earlier, ∃ block,
            (other.readBlock bus).1 = .ok block ∧ other.Took bus after block) ∧
          channel.waiting after = channel.waiting (channel.readBlock bus).2 ∧
          ∀ other ∈ later, other.waiting after = other.waiting bus := by
  have hwired := (World.wired_run deeds).areWired hdevice hset hlength
  refine ⟨ChannelSet.mapM_readBlock_of_all_ok hwired, ?_⟩
  intro earlier channel later failure hchannels hearlier hread
  rw [hchannels] at hwired
  rw [ChannelSet.readBlocks, hchannels]
  exact ChannelSet.mapM_readBlock_of_first_error hwired hearlier hread

/-! One block waits on the first of two inputs, and half a record on the second. -/

def twoInputsDeeds : List Deed :=
  [.changes (.addDevice Bus.twoInputs), .opens "adc" none]

def oneBlockWaiting : Bus MemoryBus :=
  let world := (World.start {}).run twoInputsDeeds
  { world.bus with store := { world.bus.store with
      queues := [⟨[7]⟩, ⟨(Bus.oneByte 7).control⟩, ⟨[9]⟩, ⟨List.replicate 256 0⟩] } }

theorem readBlocks_fails_fast_twoInputs :
    ∃ device ∈ ((World.start {}).run twoInputsDeeds).granted, ∃ set ∈ device.sets,
      ∃ first second, set.channels = [first, second] ∧
        ∃ failure after, set.readBlocks oneBlockWaiting = (.error failure, after) ∧
          (∃ block, first.Took oneBlockWaiting after block) ∧
          second.waiting after = second.waiting (second.readBlock oneBlockWaiting).2 := by
  have hreads : ((World.start {}).run twoInputsDeeds).granted.map (fun device =>
      device.sets.map fun set => set.channels.map fun channel =>
        (channel.readBlock oneBlockWaiting).1.toOption.isSome) = [[[true, false]]] := by
    decide +kernel
  obtain ⟨device, hgranted, hsets⟩ := List.map_eq_singleton_iff.mp hreads
  obtain ⟨set, hset, hchannels⟩ := List.map_eq_singleton_iff.mp hsets
  obtain ⟨first, rest, hfirst, hok, hrest⟩ := List.map_eq_cons_iff.mp hchannels
  obtain ⟨second, rfl, herror⟩ := List.map_eq_singleton_iff.mp hrest
  have hdevice : device ∈ ((World.start {}).run twoInputsDeeds).granted :=
    hgranted ▸ List.mem_singleton_self device
  have hmem : set ∈ device.sets := hset ▸ List.mem_singleton_self set
  have hlength : ((World.start {}).run twoInputsDeeds).bus.store.queues.length ≤
      oneBlockWaiting.store.queues.length := by decide
  obtain ⟨-, hfails⟩ := readBlocks_fails_fast twoInputsDeeds hdevice hmem hlength
  have hgives : ∀ other ∈ [first], ∃ block, (other.readBlock oneBlockWaiting).1 = .ok block := by
    refine List.forall_mem_singleton.mpr ?_
    cases hblock : (first.readBlock oneBlockWaiting).1 with
    | ok block => exact ⟨block, rfl⟩
    | error failure =>
        rw [hblock] at hok
        cases hok
  cases hsecond : (second.readBlock oneBlockWaiting).1 with
  | ok block =>
      rw [hsecond] at herror
      cases herror
  | error failure =>
      obtain ⟨after, hread, htook, hkept, -⟩ :=
        hfails [first] second [] failure hfirst hgives hsecond
      obtain ⟨block, -, htook⟩ := htook first (List.mem_singleton_self first)
      exact ⟨device, hdevice, set, hmem, first, second, hfirst, failure, after, hread, ⟨block, htook⟩,
        hkept⟩

end DaqBus

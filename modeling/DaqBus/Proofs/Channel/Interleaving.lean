import DaqBus.Proofs.Block.Restoring
import DaqBus.Proofs.Channel.Loopback
import DaqBus.Proofs.Channel.Outcomes
import DaqBus.Proofs.Channel.Index

/-!
# Many clients on many channels

Clients take steps on the channels of one device in any order. What a step answers is decided by the
bytes that wait on its channel, and it changes no others, so every channel goes its own way: a run on a
device is a run on each channel, over the steps that were taken on it. On an input channel that only
whole blocks are pushed to, this is a queue of blocks.
-/

namespace DaqBus

open Control

/-! ### One channel -/

namespace Channel

inductive Act
  | pushBlock (header : Header) (payload : Bytes)
  | pushRaw (block : RawBlock)
  | read
  | write (block : Block)
  | drain
deriving DecidableEq

inductive Reply
  | pushed
  | read (outcome : Except BusError Block)
  | written (outcome : Except BusError Unit)
  | drained (raw : RawBlock)
  /-- The device has no such channel. -/
  | missing

def act (channel : Channel) (bus : Bus MemoryBus) : Act → Reply × Bus MemoryBus
  | .pushBlock header payload => (.pushed, channel.push ⟨header.encode, payload⟩ bus)
  | .pushRaw block => (.pushed, channel.push block bus)
  | .read => (.read (channel.readBlock bus).1, (channel.readBlock bus).2)
  | .write block => (.written (channel.writeBlock block bus).1, (channel.writeBlock block bus).2)
  | .drain => (.drained (channel.drain bus).1, (channel.drain bus).2)

def writeRefusal (channel : Channel) (code : Errno) : BusError :=
  .writeFailure s!"Cannot write block on channel '{channel.node.deviceName}'" code.message

/-- The answer to a step and the bytes that wait after it, from the bytes that wait before it. -/
def respond (channel : Channel) (waiting : RawBlock) : Act → Reply × RawBlock
  | .pushBlock header payload => (.pushed, waiting ++ ⟨header.encode, payload⟩)
  | .pushRaw block => (.pushed, waiting ++ block)
  | .read =>
    match channel.direction with
    | .input => (.read (channel.readOutcome waiting.first.1), waiting.first.2)
    | .output => (.read (.error (channel.readRefusal .wrongDirection)), waiting)
  | .write block =>
    match channel.direction with
    | .input => (.written (.error (channel.writeRefusal .wrongDirection)), waiting)
    | .output => (.written (.ok ()), waiting ++ block.encode)
  | .drain => (.drained waiting, {})

/-- The answers to several steps, and what waits after the last one. -/
def respondAll (channel : Channel) : RawBlock → List Act → List Reply × RawBlock
  | waiting, [] => ([], waiting)
  | waiting, act :: acts =>
    let (reply, next) := channel.respond waiting act
    let (replies, last) := channel.respondAll next acts
    (reply :: replies, last)

variable {channel other : Channel} {bus : Bus MemoryBus}

theorem setWaiting_waiting (channel : Channel) (bus : Bus MemoryBus) :
    channel.setWaiting (channel.waiting bus) bus = bus := by
  rw [setWaiting, waiting, MemoryBus.setWaiting_waiting]

theorem readBlock_of_output {S : Type} [Backend S] {bus : Bus S}
    (hopen : bus.isClosed channel.opening.number = false) (houtput : channel.direction = .output) :
    channel.readBlock bus = (.error (channel.readRefusal .wrongDirection), bus) := by
  have hstore : Backend.readBlock channel.streams bus.store = (.error .wrongDirection, bus.store) := by
    have hdirection : channel.streams.direction = .output := houtput
    unfold Backend.readBlock Lane.readBlock
    simp only [Backend.lane, hdirection]
    rfl
  unfold readBlock
  refine (Effect.bind_of_ok (Opening.check_of_open hopen)).trans (Effect.bind_of_error ?_)
  rw [Bus.restate, Bus.onStore, hstore]
  rfl

theorem writeBlock_of_input {S : Type} [Backend S] {bus : Bus S}
    (hopen : bus.isClosed channel.opening.number = false) (hinput : channel.direction = .input)
    (block : Block) :
    channel.writeBlock block bus = (.error (channel.writeRefusal .wrongDirection), bus) := by
  have hstore : Backend.writeBlock channel.streams block.encode bus.store =
      (.error .wrongDirection, bus.store) := by
    have hdirection : channel.streams.direction = .input := hinput
    unfold Backend.writeBlock Lane.writeBlock
    simp only [Backend.lane, hdirection]
    rfl
  unfold writeBlock
  refine (Effect.bind_of_ok (Opening.check_of_open hopen)).trans (Effect.bind_of_error ?_)
  rw [Bus.restate, Bus.onStore, hstore]
  rfl

/-- **One step.** It answers by what waits on the channel, and changes that and the log alone. -/
theorem act_eq (h : channel.Connected bus) (act : Act) :
    ∃ log, channel.act bus act = ((channel.respond (channel.waiting bus) act).1,
      { channel.setWaiting (channel.respond (channel.waiting bus) act).2 bus with log }) := by
  cases act with
  | pushBlock header payload => exact ⟨bus.log, by rw [Channel.act, push_eq h]; rfl⟩
  | pushRaw block => exact ⟨bus.log, by rw [Channel.act, push_eq h]; rfl⟩
  | read =>
      cases hdirection : channel.direction with
      | input =>
          simp only [Channel.act, respond, hdirection, readBlock_eq h hdirection]
          cases channel.readOutcome (channel.waiting bus).first.1 <;> exact ⟨_, rfl⟩
      | output =>
          refine ⟨bus.log, ?_⟩
          simp only [Channel.act, respond, hdirection, readBlock_of_output h.isOpen hdirection,
            setWaiting_waiting]
  | write block =>
      cases hdirection : channel.direction with
      | input =>
          refine ⟨bus.log, ?_⟩
          simp only [Channel.act, respond, hdirection, writeBlock_of_input h.isOpen hdirection,
            setWaiting_waiting]
      | output =>
          simp only [Channel.act, respond, hdirection, writeBlock_eq h hdirection]
          exact ⟨_, rfl⟩
  | drain => exact ⟨bus.log, by rw [Channel.act, drain_eq h]; rfl⟩

theorem Connected.act (h : channel.Connected bus) (other : Channel) (hother : other.Connected bus)
    (step : Act) : channel.Connected (other.act bus step).2 := by
  obtain ⟨log, hact⟩ := act_eq hother step
  rw [hact]
  exact ⟨h.isOpen, (h.setWaiting other _).hasQueues, h.registered⟩

theorem fst_act (h : channel.Connected bus) (act : Act) :
    (channel.act bus act).1 = (channel.respond (channel.waiting bus) act).1 := by
  obtain ⟨log, hact⟩ := act_eq h act
  rw [hact]

theorem waiting_act (h : channel.Connected bus) (act : Act) :
    channel.waiting (channel.act bus act).2 = (channel.respond (channel.waiting bus) act).2 := by
  obtain ⟨log, hact⟩ := act_eq h act
  rw [hact]
  exact waiting_setWaiting h _

theorem waiting_act_of_apart (h : channel.Connected bus)
    (hapart : channel.streams.Apart other.streams) (act : Act) :
    other.waiting (channel.act bus act).2 = other.waiting bus := by
  obtain ⟨log, hact⟩ := act_eq h act
  rw [hact]
  exact MemoryBus.waiting_setWaiting_of_apart hapart _

end Channel

/-! ### One device -/

/-- A step that a client takes on a channel. -/
structure Move (Client : Type) where
  client : Client
  index : ChannelIndex
  act : Channel.Act

variable {Client : Type}

def actsOn (index : ChannelIndex) (moves : List (Move Client)) : List Channel.Act :=
  (moves.filter fun move => move.index = index).map Move.act

def repliesOn (index : ChannelIndex) (trace : List (Move Client × Channel.Reply)) :
    List Channel.Reply :=
  (trace.filter fun taken => taken.1.index = index).map Prod.snd

theorem actsOn_cons (index : ChannelIndex) (move : Move Client) (moves : List (Move Client)) :
    actsOn index (move :: moves) =
      if move.index = index then move.act :: actsOn index moves else actsOn index moves := by
  by_cases hindex : move.index = index <;> simp [actsOn, hindex]

theorem repliesOn_cons (index : ChannelIndex) (move : Move Client) (reply : Channel.Reply)
    (trace : List (Move Client × Channel.Reply)) :
    repliesOn index ((move, reply) :: trace) =
      if move.index = index then reply :: repliesOn index trace else repliesOn index trace := by
  by_cases hindex : move.index = index <;> simp [repliesOn, hindex]

namespace Device

def act (device : Device) (bus : Bus MemoryBus) (move : Move Client) :
    Channel.Reply × Bus MemoryBus :=
  match device.channel? move.index with
  | some channel => channel.act bus move.act
  | none => (.missing, bus)

/-- Takes the steps one after the other and keeps what each of them answered. -/
def run (device : Device) : List (Move Client) → Bus MemoryBus →
    List (Move Client × Channel.Reply) × Bus MemoryBus
  | [], bus => ([], bus)
  | move :: moves, bus =>
    let (reply, after) := device.act bus move
    let (trace, last) := device.run moves after
    ((move, reply) :: trace, last)

/-- Every channel of the device is connected, and no two of them share a queue. -/
structure IsApart (device : Device) (bus : Bus MemoryBus) : Prop where
  connected : ∀ {index channel}, device.channel? index = some channel → channel.Connected bus
  apart : ∀ {index index' channel other}, index ≠ index' → device.channel? index = some channel →
    device.channel? index' = some other → channel.streams.Apart other.streams

variable {device : Device} {bus : Bus MemoryBus} {index : ChannelIndex} {channel : Channel}

theorem IsApart.act (h : device.IsApart bus) (move : Move Client) :
    device.IsApart (device.act bus move).2 := by
  refine ⟨fun {index channel} hchannel => ?_, h.apart⟩
  unfold Device.act
  cases hmoved : device.channel? move.index with
  | none => exact h.connected hchannel
  | some moved => exact (h.connected hchannel).act moved (h.connected hmoved) move.act

theorem act_of_index (hchannel : device.channel? index = some channel) {move : Move Client}
    (hindex : move.index = index) (bus : Bus MemoryBus) :
    device.act bus move = channel.act bus move.act := by
  rw [act, hindex, hchannel]

/-- A step on one channel leaves what waits on the others. -/
theorem IsApart.waiting_act_of_ne (h : device.IsApart bus)
    (hchannel : device.channel? index = some channel) {move : Move Client}
    (hindex : move.index ≠ index) :
    channel.waiting (device.act bus move).2 = channel.waiting bus := by
  unfold Device.act
  cases hmoved : device.channel? move.index with
  | none => rfl
  | some moved =>
      exact Channel.waiting_act_of_apart (h.connected hmoved) (h.apart hindex hmoved hchannel) move.act

theorem IsApart.isApart_run (h : device.IsApart bus) (moves : List (Move Client)) :
    device.IsApart (device.run moves bus).2 := by
  induction moves generalizing bus with
  | nil => exact h
  | cons move moves ih => exact ih (h.act move)

/-- **A run is a run on each channel.** -/
theorem IsApart.run (h : device.IsApart bus) (hchannel : device.channel? index = some channel)
    (moves : List (Move Client)) :
    (repliesOn index (device.run moves bus).1, channel.waiting (device.run moves bus).2) =
      channel.respondAll (channel.waiting bus) (actsOn index moves) := by
  induction moves generalizing bus with
  | nil => rfl
  | cons move moves ih =>
      have hrest := ih (h.act move)
      have hrun : device.run (move :: moves) bus =
        ((move, (device.act bus move).1) :: (device.run moves (device.act bus move).2).1,
          (device.run moves (device.act bus move).2).2) := rfl
      rw [hrun]
      obtain ⟨hreplies, hwaiting⟩ := Prod.mk.inj hrest
      by_cases hindex : move.index = index
      · have hconnected := h.connected hchannel
        have hact := act_of_index hchannel hindex bus
        rw [hact] at hreplies hwaiting ⊢
        rw [Channel.waiting_act hconnected] at hreplies hwaiting
        rw [repliesOn_cons, actsOn_cons, if_pos hindex, if_pos hindex, hreplies, hwaiting,
          Channel.fst_act hconnected]
        rfl
      · rw [h.waiting_act_of_ne hchannel hindex] at hreplies hwaiting
        rw [repliesOn_cons, actsOn_cons, if_neg hindex, if_neg hindex, hreplies, hwaiting]

end Device

/-! ### A queue of blocks -/

namespace RawBlock

/-- A record of the fixed size with a usable sample size, and all of its payload. -/
structure IsProper (raw : RawBlock) : Prop where
  whole : raw.IsWhole
  usable : raw.isUsable

def concat : List RawBlock → RawBlock
  | [] => {}
  | raw :: raws => raw ++ concat raws

variable {raw : RawBlock}

theorem concat_append_singleton (raws : List RawBlock) (raw : RawBlock) :
    concat (raws ++ [raw]) = concat raws ++ raw := by
  induction raws with
  | nil => exact append_empty raw
  | cons first raws ih => rw [List.cons_append, concat, ih, concat, append_assoc]

theorem IsProper.first_append (h : raw.IsProper) (later : RawBlock) :
    (raw ++ later).first = (.ok raw, later) := by
  refine (first_of_whole h.whole later.control (raw.data ++ later.data)).trans ?_
  rw [if_pos h.usable, List.take_left, List.drop_left]

theorem IsProper.exists_readOutcome (h : raw.IsProper) (channel : Channel) :
    ∃ block, channel.readOutcome (.ok raw) = .ok block ∧ block.encode = raw := by
  obtain ⟨block, hdecode, hencode⟩ := h.whole.exists_decode h.usable
  exact ⟨block, Channel.readOutcome_eq_ok_iff.mpr ⟨raw, rfl, hdecode⟩, hencode⟩

theorem first_empty : ({} : RawBlock).first = (.error .controlWrong, {}) := by
  rw [first_of_unusable (by decide)]
  rfl

end RawBlock

namespace Channel

open RawBlock (concat)

def Act.pushed? : Act → Option RawBlock
  | .pushBlock header payload => some ⟨header.encode, payload⟩
  | .pushRaw block => some block
  | .read | .write _ | .drain => none

def Reply.received? : Reply → Option Block
  | .read (.ok block) => some block
  | .read (.error _) | .pushed | .written _ | .drained _ | .missing => none

def pushedBy (acts : List Act) : List RawBlock :=
  acts.filterMap Act.pushed?

def receivedIn (replies : List Reply) : List Block :=
  replies.filterMap Reply.received?

variable {channel : Channel} {bus : Bus MemoryBus} {queued : List RawBlock}

theorem pushedBy_cons (act : Act) (acts : List Act) :
    pushedBy (act :: acts) = act.pushed?.toList ++ pushedBy acts := by
  cases hact : act.pushed? with
  | none => exact List.filterMap_cons_none hact
  | some raw => exact List.filterMap_cons_some hact

theorem receivedIn_cons (reply : Reply) (replies : List Reply) :
    receivedIn (reply :: replies) = reply.received?.toList ++ receivedIn replies := by
  cases hreply : reply.received? with
  | none => exact List.filterMap_cons_none hreply
  | some block => exact List.filterMap_cons_some hreply

theorem respond_read_cons (hinput : channel.direction = .input) {raw : RawBlock}
    (hraw : raw.IsProper) (later : List RawBlock) :
    ∃ block, channel.respond (concat (raw :: later)) .read = (.read (.ok block), concat later) ∧
      block.encode = raw := by
  obtain ⟨block, hread, hencode⟩ := hraw.exists_readOutcome channel
  refine ⟨block, ?_, hencode⟩
  simp only [respond, hinput, concat, hraw.first_append, hread]

theorem respond_read_nil (hinput : channel.direction = .input) :
    channel.respond (concat []) .read =
      (.read (.error (channel.readRefusal .controlWrong)), concat []) := by
  simp only [respond, hinput, concat, RawBlock.first_empty]
  rfl

/-- One step puts a block behind those that wait, takes the first of them, or leaves them. -/
theorem respond_concat (hinput : channel.direction = .input)
    (hqueued : ∀ raw ∈ queued, raw.IsProper) {act : Act} (hdrain : act ≠ .drain) :
    ∃ left, (channel.respond (concat queued) act).2 = concat left ∧
      queued ++ act.pushed?.toList =
        (channel.respond (concat queued) act).1.received?.toList.map Block.encode ++ left := by
  cases act with
  | pushBlock header payload =>
      refine ⟨queued ++ [⟨header.encode, payload⟩], ?_, rfl⟩
      rw [RawBlock.concat_append_singleton]
      rfl
  | pushRaw block =>
      refine ⟨queued ++ [block], ?_, rfl⟩
      rw [RawBlock.concat_append_singleton]
      rfl
  | drain => exact absurd rfl hdrain
  | write block =>
      simp only [respond, hinput]
      exact ⟨queued, rfl, List.append_nil queued⟩
  | read =>
      cases queued with
      | nil =>
          rw [respond_read_nil hinput]
          exact ⟨[], rfl, rfl⟩
      | cons raw later =>
          obtain ⟨block, hread, hencode⟩ :=
            respond_read_cons hinput (hqueued raw List.mem_cons_self) later
          rw [hread]
          refine ⟨later, rfl, ?_⟩
          rw [← hencode]
          exact List.append_nil _

/-- What is received and what waits at the end is what waited and what was pushed, in order. -/
theorem respondAll_concat (hinput : channel.direction = .input) {acts : List Act}
    (hpushed : ∀ raw ∈ pushedBy acts, raw.IsProper) (hdrain : Act.drain ∉ acts)
    (hqueued : ∀ raw ∈ queued, raw.IsProper) :
    ∃ rest, (channel.respondAll (concat queued) acts).2 = concat rest ∧
      queued ++ pushedBy acts =
        (receivedIn (channel.respondAll (concat queued) acts).1).map Block.encode ++ rest := by
  induction acts generalizing queued with
  | nil => exact ⟨queued, rfl, List.append_nil queued⟩
  | cons act acts ih =>
      obtain ⟨hfirst, hlater⟩ := List.forall_mem_append.mp (pushedBy_cons act acts ▸ hpushed)
      obtain ⟨left, hwaiting, hstep⟩ := respond_concat hinput hqueued
        (fun hact => hdrain (hact ▸ List.mem_cons_self))
      have hleft : ∀ raw ∈ left, raw.IsProper := by
        intro raw hmem
        have hbefore : raw ∈ queued ++ act.pushed?.toList := by
          rw [hstep]
          exact List.mem_append_right _ hmem
        exact (List.mem_append.mp hbefore).elim (hqueued raw) (hfirst raw)
      obtain ⟨rest, hlast, hsplit⟩ :=
        ih hlater (fun hmem => hdrain (List.mem_cons_of_mem act hmem)) hleft
      have hall : channel.respondAll (concat queued) (act :: acts) =
          ((channel.respond (concat queued) act).1 ::
            (channel.respondAll (channel.respond (concat queued) act).2 acts).1,
            (channel.respondAll (channel.respond (concat queued) act).2 acts).2) := rfl
      rw [hall, hwaiting]
      refine ⟨rest, hlast, ?_⟩
      rw [pushedBy_cons, receivedIn_cons, List.map_append, List.append_assoc, ← hsplit,
        ← List.append_assoc, hstep, List.append_assoc]

/-- A further read delivers the first block that waits. -/
theorem readBlock_of_waiting_concat (h : channel.Connected bus) (hinput : channel.direction = .input)
    (hqueued : ∀ raw ∈ queued, raw.IsProper) (hwaiting : channel.waiting bus = concat queued) :
    (channel.readBlock bus).1.toOption.map Block.encode = queued.head? := by
  rw [fst_readBlock h hinput, hwaiting]
  cases queued with
  | nil => rw [concat, RawBlock.first_empty]; rfl
  | cons raw later =>
      have hraw := hqueued raw List.mem_cons_self
      obtain ⟨block, hread, hencode⟩ := hraw.exists_readOutcome channel
      rw [concat, hraw.first_append, hread]
      exact congrArg some hencode

end Channel

/-! ### Opened devices -/

namespace Bus

open Channel (pushedBy receivedIn)

variable {devices : List Memory.Blueprint} {name : String} {id : Option UInt32} {device : Device}
  {bus : Bus MemoryBus} {index : ChannelIndex} {channel : Channel}

theorem isApart_of_openDevice
    (hopen : openDevice name id { store := devices.foldl MemoryBus.addDevice {} } =
      (.ok device, bus)) : device.IsApart bus :=
  ⟨fun hchannel => (idle_of_channel? hopen hchannel).connected, apart_of_openDevice hopen⟩

/-- **Channels do not interfere.** Whatever steps clients take on the channels of a device, what a
channel answers and what waits on it at the end depend on the steps on this channel alone. On an input
channel that nobody drains and that only proper blocks are pushed to, the blocks that are received are
the first ones that were pushed, the others still wait, and a further read delivers the next one. -/
theorem interleavings_of_openDevice
    (hopen : openDevice name id { store := devices.foldl MemoryBus.addDevice {} } =
      (.ok device, bus)) (hchannel : device.channel? index = some channel) :
    (∀ moves moves' : List (Move Client), actsOn index moves = actsOn index moves' →
      repliesOn index (device.run moves bus).1 = repliesOn index (device.run moves' bus).1 ∧
      channel.waiting (device.run moves bus).2 = channel.waiting (device.run moves' bus).2) ∧
    (channel.direction = .input → ∀ moves : List (Move Client),
      (∀ raw ∈ pushedBy (actsOn index moves), raw.IsProper) → .drain ∉ actsOn index moves →
      ∃ rest, pushedBy (actsOn index moves) =
          (receivedIn (repliesOn index (device.run moves bus).1)).map Block.encode ++ rest ∧
        channel.waiting (device.run moves bus).2 = RawBlock.concat rest ∧
        (channel.readBlock (device.run moves bus).2).1.toOption.map Block.encode = rest.head?) := by
  have hapart := isApart_of_openDevice hopen
  constructor
  · intro moves moves' hacts
    have hrun := hapart.run hchannel moves
    rw [hacts, ← hapart.run hchannel moves'] at hrun
    exact Prod.mk.inj hrun
  · intro hinput moves hpushed hdrain
    obtain ⟨hreplies, hwaiting⟩ := Prod.mk.inj (hapart.run hchannel moves)
    have hempty : channel.waiting bus = RawBlock.concat [] := (idle_of_channel? hopen hchannel).waiting
    rw [hempty] at hreplies hwaiting
    have hnone : ∀ raw ∈ ([] : List RawBlock), raw.IsProper := fun _ hmem => nomatch hmem
    obtain ⟨rest, hlast, hsplit⟩ := Channel.respondAll_concat hinput hpushed hdrain hnone
    rw [List.nil_append, ← hreplies] at hsplit
    rw [← hwaiting] at hlast
    refine ⟨rest, hsplit, hlast, ?_⟩
    apply Channel.readBlock_of_waiting_concat ((hapart.isApart_run moves).connected hchannel) hinput
      _ hlast
    intro raw hraw
    apply hpushed
    rw [hsplit]
    exact List.mem_append_right _ hraw

/-! Two clients on two channels. -/

def twoInputs : Memory.Blueprint where
  name := "adc"
  sets := [{ direction := .input, channels := 2 }]

def oneByte (value : UInt8) : RawBlock where
  control := ({ sampleCount := 1, sampleSize := 1 } : Header).encode
  data := [value]

def crossed : List (Move Nat) := [
  ⟨1, ⟨0, 0⟩, .pushRaw (oneByte 7)⟩, ⟨2, ⟨0, 1⟩, .pushRaw (oneByte 9)⟩,
  ⟨2, ⟨0, 0⟩, .pushRaw (oneByte 8)⟩, ⟨1, ⟨0, 1⟩, .drain⟩, ⟨2, ⟨0, 0⟩, .read⟩]

/-- The steps on the first channel alone, all by one client. -/
def lone : List (Move Nat) := [
  ⟨1, ⟨0, 0⟩, .pushRaw (oneByte 7)⟩, ⟨1, ⟨0, 0⟩, .pushRaw (oneByte 8)⟩, ⟨1, ⟨0, 0⟩, .read⟩]

theorem isProper_oneByte (value : UInt8) : (oneByte value).IsProper where
  whole := by
    constructor
    · show (oneByte 0).control.length = recordSize
      decide +kernel
    · show 1 = RawBlock.announced (oneByte 0).control
      decide +kernel
  usable := by
    show isSampleSize (Lane.sampleSize (oneByte 0).control) = true
    decide

def openedTwoInputs : Except BusError Device × Bus MemoryBus :=
  openDevice "adc" none { store := [twoInputs].foldl MemoryBus.addDevice {} }

theorem interleavings_of_openDevice_crossed :
    ∃ device bus channel, openedTwoInputs = (.ok device, bus) ∧
      device.channel? ⟨0, 0⟩ = some channel ∧
      repliesOn ⟨0, 0⟩ (device.run crossed bus).1 = repliesOn ⟨0, 0⟩ (device.run lone bus).1 ∧
      (receivedIn (repliesOn ⟨0, 0⟩ (device.run crossed bus).1)).map Block.encode = [oneByte 7] ∧
      (channel.readBlock (device.run crossed bus).2).1.toOption.map Block.encode =
        some (oneByte 8) := by
  have hchannel : (openedTwoInputs.1.toOption.bind (·.channel? ⟨0, 0⟩)).map Channel.direction =
      some .input := by decide
  have hreceived : openedTwoInputs.1.toOption.map (fun device =>
      (receivedIn (repliesOn ⟨0, 0⟩ (device.run crossed openedTwoInputs.2).1)).map Block.encode) =
      some [oneByte 7] := by decide +kernel
  have hpushed : pushedBy (actsOn ⟨0, 0⟩ crossed) = [oneByte 7, oneByte 8] := by decide +kernel
  rcases hopen : openedTwoInputs with ⟨_ | device, bus⟩
  · rw [hopen] at hchannel
    cases hchannel
  rw [hopen] at hchannel hreceived
  obtain ⟨channel, hchannel, hinput⟩ := Option.map_eq_some_iff.mp hchannel
  have hfirst : (receivedIn (repliesOn ⟨0, 0⟩ (device.run crossed bus).1)).map Block.encode =
      [oneByte 7] := Option.some.inj hreceived
  obtain ⟨hsame, hqueue⟩ := interleavings_of_openDevice hopen hchannel
  have hproper : ∀ raw ∈ pushedBy (actsOn ⟨0, 0⟩ crossed), raw.IsProper := by
    rw [hpushed]
    simp [isProper_oneByte]
  obtain ⟨rest, hsplit, -, hnext⟩ := hqueue hinput crossed hproper (by decide)
  rw [hpushed, hfirst] at hsplit
  obtain rfl : [oneByte 8] = rest := (List.cons.inj hsplit).2
  exact ⟨device, bus, channel, rfl, hchannel, (hsame crossed lone rfl).1, hfirst, hnext⟩

end Bus

end DaqBus

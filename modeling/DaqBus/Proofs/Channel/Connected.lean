import DaqBus.Proofs.Control.RoundTrip
import DaqBus.Proofs.Memory.Waiting
import DaqBus.Proofs.Tree.Access
import DaqBus.Tree.Channel

/-!
# Blocks through an open channel

What a read and a write of a block do to a bus in memory, for a channel that is connected: its device
is open, and its two streams are the ones registered under its name. Both are determined by the bytes
that wait on the channel, and both leave the channel connected, so that runs of any length can be
followed on the waiting bytes alone.
-/

namespace DaqBus

open Control

namespace Channel

variable {channel : Channel} {bus : Bus MemoryBus}

/-- The channel is open, and its streams are two queues that the store knows by its name. -/
structure Connected (channel : Channel) (bus : Bus MemoryBus) : Prop where
  isOpen : bus.isClosed channel.opening.number = false
  hasQueues : bus.store.HasQueues channel.streams
  registered : bus.store.streams.find? channel.node.deviceName =
    some ⟨channel.streams.data, channel.streams.control⟩

def waiting (channel : Channel) (bus : Bus MemoryBus) : RawBlock :=
  bus.store.waiting channel.streams

/-- A connected channel with nothing waiting. -/
structure Idle (channel : Channel) (bus : Bus MemoryBus) : Prop where
  connected : channel.Connected bus
  waiting : channel.waiting bus = {}

def setWaiting (channel : Channel) (raw : RawBlock) (bus : Bus MemoryBus) : Bus MemoryBus :=
  { bus with store := bus.store.setWaiting channel.streams raw }

/-- The bus after bytes were pushed under the name of the channel. -/
def push (channel : Channel) (block : RawBlock) (bus : Bus MemoryBus) : Bus MemoryBus :=
  { bus with store := bus.store.push channel.node.deviceName block }

def readRefusal (channel : Channel) (code : Errno) : BusError :=
  .readFailure s!"Cannot read block on channel '{channel.node.deviceName}'" code.message

/-- The outcome of a read, from what the store gave. -/
def readOutcome (channel : Channel) (raw : Except Errno RawBlock) : Except BusError Block := do
  (Block.decode (← raw.mapError channel.readRefusal)).mapError .block

theorem readOutcome_eq_ok_iff {raw : Except Errno RawBlock} {block : Block} :
    channel.readOutcome raw = .ok block ↔ ∃ found, raw = .ok found ∧ Block.decode found = .ok block := by
  cases raw with
  | error code =>
      constructor
      · intro h
        cases h
      · rintro ⟨found, h, -⟩
        cases h
  | ok found =>
      have houtcome : channel.readOutcome (.ok found) = (Block.decode found).mapError .block := rfl
      rw [houtcome]
      cases hdecode : Block.decode found with
      | error fault =>
          constructor
          · intro h
            cases h
          · rintro ⟨found, h, hok⟩
            cases h
            rw [hdecode] at hok
            cases hok
      | ok decoded =>
          constructor
          · intro h
            cases h
            exact ⟨found, rfl, hdecode⟩
          · rintro ⟨found, h, hok⟩
            cases h
            rw [hdecode] at hok
            cases hok
            rfl

theorem Connected.setWaiting (h : channel.Connected bus) (other : Channel) (raw : RawBlock) :
    channel.Connected (other.setWaiting raw bus) :=
  ⟨h.isOpen, h.hasQueues.setWaiting other.streams raw, h.registered⟩

theorem Connected.record (h : channel.Connected bus) (event : Event) :
    channel.Connected (bus.record event) :=
  ⟨h.isOpen, h.hasQueues, h.registered⟩

theorem waiting_setWaiting (h : channel.Connected bus) (raw : RawBlock) :
    channel.waiting (channel.setWaiting raw bus) = raw :=
  MemoryBus.waiting_setWaiting h.hasQueues raw

theorem push_eq (h : channel.Connected bus) (block : RawBlock) :
    channel.push block bus = channel.setWaiting (channel.waiting bus ++ block) bus := by
  rw [push, setWaiting, MemoryBus.push_eq h.hasQueues h.registered]
  rfl

theorem waiting_push (h : channel.Idle bus) (raw : RawBlock) :
    channel.waiting (channel.push raw bus) = raw := by
  rw [push_eq h.connected, waiting_setWaiting h.connected, h.waiting, RawBlock.empty_append]

theorem Connected.push (h : channel.Connected bus) (raw : RawBlock) :
    channel.Connected (channel.push raw bus) := by
  rw [push_eq h]
  exact h.setWaiting channel _

/-- Emptying one channel leaves every idle channel idle. -/
theorem Idle.setWaiting_empty (h : channel.Idle bus) (other : Channel) :
    channel.Idle (other.setWaiting {} bus) :=
  ⟨h.connected.setWaiting other {}, MemoryBus.waiting_setWaiting_empty h.waiting⟩

theorem Idle.withLog (h : channel.Idle bus) (log : List Event) :
    channel.Idle { bus with log } :=
  ⟨⟨h.connected.isOpen, h.connected.hasQueues, h.connected.registered⟩, h.waiting⟩

/-! ### Reading

A read goes by the first record that waits, whatever is behind it. -/

/-- Only a block that is delivered leaves an event. -/
def logRead (channel : Channel) : Except BusError Block → Bus MemoryBus → Bus MemoryBus
  | .ok block, bus => bus.record (.blockRead channel.node.deviceName block.header.sequence
      block.header.sampleCount block.header.sampleSize)
  | .error _, bus => bus

theorem waiting_logRead (channel other : Channel) (outcome : Except BusError Block)
    (bus : Bus MemoryBus) : other.waiting (channel.logRead outcome bus) = other.waiting bus := by
  cases outcome <;> rfl

theorem Connected.logRead (h : channel.Connected bus) (other : Channel)
    (outcome : Except BusError Block) : channel.Connected (other.logRead outcome bus) := by
  cases outcome with
  | error failure => exact h
  | ok block => exact h.record _

theorem readBlock_eq (h : channel.Connected bus) (hinput : channel.direction = .input) :
    channel.readBlock bus =
      (channel.readOutcome (channel.waiting bus).first.1,
        channel.logRead (channel.readOutcome (channel.waiting bus).first.1)
          (channel.setWaiting (channel.waiting bus).first.2 bus)) := by
  have hstore : Bus.restate channel.readRefusal
        (Bus.onStore (Backend.readBlock channel.streams)) bus =
      ((channel.waiting bus).first.1.mapError channel.readRefusal,
        channel.setWaiting (channel.waiting bus).first.2 bus) := by
    rw [Bus.restate, Bus.onStore, MemoryBus.readBlock_eq h.hasQueues hinput]
    rfl
  unfold readBlock
  refine (Effect.bind_of_ok (Opening.check_of_open h.isOpen)).trans ?_
  generalize (channel.waiting bus).first = found at hstore
  obtain ⟨outcome, rest⟩ := found
  cases outcome with
  | error code => exact Effect.bind_of_error hstore
  | ok raw =>
      refine (Effect.bind_of_ok hstore).trans ?_
      have houtcome : channel.readOutcome (.ok raw) = (Block.decode raw).mapError .block := rfl
      simp only [houtcome]
      cases Block.decode raw with
      | error fault => rfl
      | ok block => rfl

theorem fst_readBlock (h : channel.Connected bus) (hinput : channel.direction = .input) :
    (channel.readBlock bus).1 = channel.readOutcome (channel.waiting bus).first.1 := by
  rw [readBlock_eq h hinput]

theorem waiting_readBlock (h : channel.Connected bus) (hinput : channel.direction = .input) :
    channel.waiting (channel.readBlock bus).2 = (channel.waiting bus).first.2 := by
  rw [readBlock_eq h hinput, waiting_logRead, waiting_setWaiting h]

theorem Connected.readBlock (h : channel.Connected bus) (hinput : channel.direction = .input) :
    channel.Connected (channel.readBlock bus).2 := by
  rw [readBlock_eq h hinput]
  exact (h.setWaiting channel _).logRead channel _

theorem Idle.fst_readBlock (h : channel.Idle bus) (hinput : channel.direction = .input) :
    (channel.readBlock bus).1 = .error (channel.readRefusal .controlWrong) := by
  have hshort : ¬ ((([] : Bytes).take recordSize).length = recordSize ∧
      isSampleSize (Lane.sampleSize (([] : Bytes).take recordSize))) := by decide
  rw [Channel.fst_readBlock h.connected hinput, h.waiting, RawBlock.first_of_unusable hshort]
  rfl

/-! ### Writing -/

theorem writeBlock_eq (h : channel.Connected bus) (houtput : channel.direction = .output)
    (block : Block) :
    channel.writeBlock block bus =
      (.ok (), (channel.setWaiting (channel.waiting bus ++ block.encode) bus).record
        (.blockWritten channel.node.deviceName block.header.sequence block.payload.length)) := by
  have hstore : Backend.writeBlock channel.streams block.encode bus.store =
      (.ok (), bus.store.setWaiting channel.streams (channel.waiting bus ++ block.encode)) :=
    MemoryBus.writeBlock_eq h.hasQueues houtput block.header.recordSize_le_length_encode
  unfold writeBlock
  refine (Effect.bind_of_ok (Opening.check_of_open h.isOpen)).trans ?_
  refine Effect.bind_of_ok (a := ()) ?_
  rw [Bus.restate, Bus.onStore, hstore]
  rfl

/-! ### A bench

One input and one output on a bus of their own, the smallest setting in which blocks travel. -/

def ofStreams (name : String) (streams : ChannelStreams) : Channel :=
  let opening : Opening := { number := 0, base := "" }
  let node (kind : ObjectKind) : Node :=
    { name, deviceName := name, base := "", kind, enableSwitch := { path := "", opening },
      attributes := [] }
  { node := node .channel
    buffer := { node := node .buffer, flushSwitch := { path := "", opening } }
    currentControl := { path := "current_control", opening }
    alarmRegister := { path := "alarms", opening }
    streams
    opening }

def benchInput : Channel := ofStreams "in" { direction := .input, data := 0, control := 1 }

def benchOutput : Channel := ofStreams "out" { direction := .output, data := 2, control := 3 }

def bench : Bus MemoryBus where
  store := {
    streams := ⟨[("in", { data := 0, control := 1 }), ("out", { data := 2, control := 3 })]⟩
    queues := [{}, {}, {}, {}] }
  opened := 1

theorem connected_benchInput : benchInput.Connected bench :=
  ⟨rfl, ⟨by decide, by decide, by decide⟩, rfl⟩

theorem connected_benchOutput : benchOutput.Connected bench :=
  ⟨rfl, ⟨by decide, by decide, by decide⟩, rfl⟩

theorem idle_benchInput : benchInput.Idle bench := ⟨connected_benchInput, rfl⟩

theorem idle_benchOutput : benchOutput.Idle bench := ⟨connected_benchOutput, rfl⟩

end Channel

end DaqBus

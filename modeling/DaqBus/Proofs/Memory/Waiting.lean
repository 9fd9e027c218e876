import DaqBus.Memory.Backend
import DaqBus.Proofs.Block.Transfer

/-!
# What waits on a channel

The two queues of a channel in memory, seen as one pair of byte strings. Transfers of blocks are
functions of that pair alone: a read takes a record and the payload it announces from the fronts, a
write appends at the ends, and nothing else of the store changes.
-/

namespace DaqBus

open Control

namespace RawBlock

instance : Append RawBlock where
  append front back := ⟨front.control ++ back.control, front.data ++ back.data⟩

@[simp]
theorem control_append (front back : RawBlock) :
    (front ++ back).control = front.control ++ back.control := rfl

@[simp]
theorem data_append (front back : RawBlock) : (front ++ back).data = front.data ++ back.data := rfl

theorem empty_append (raw : RawBlock) : {} ++ raw = raw := rfl

theorem append_empty (raw : RawBlock) : raw ++ {} = raw := by
  show (⟨raw.control ++ [], raw.data ++ []⟩ : RawBlock) = raw
  rw [List.append_nil, List.append_nil]

theorem append_assoc (front middle back : RawBlock) :
    front ++ middle ++ back = front ++ (middle ++ back) := by
  show (⟨front.control ++ middle.control ++ back.control,
    front.data ++ middle.data ++ back.data⟩ : RawBlock) = _
  rw [List.append_assoc, List.append_assoc]
  rfl

/-- What a read finds in waiting bytes, and what it leaves. A record that is short or has no usable
sample size is gone after the read, but nothing of the payload is. -/
def first (waiting : RawBlock) : Except Errno RawBlock × RawBlock :=
  let control := waiting.control.take recordSize
  let rest := waiting.control.drop recordSize
  if control.length = recordSize ∧ isSampleSize (Lane.sampleSize control) then
    (.ok { control, data := waiting.data.take (announced control) },
      { control := rest, data := waiting.data.drop (announced control) })
  else (.error .controlWrong, { waiting with control := rest })

theorem first_of_usable {waiting : RawBlock} {control : Bytes}
    (hcontrol : waiting.control.take recordSize = control) (hlength : control.length = recordSize)
    (hsize : isSampleSize (Lane.sampleSize control)) :
    waiting.first = (.ok { control, data := waiting.data.take (announced control) },
      { control := waiting.control.drop recordSize,
        data := waiting.data.drop (announced control) }) := by
  subst hcontrol
  exact if_pos ⟨hlength, hsize⟩

theorem first_of_unusable {waiting : RawBlock}
    (hunusable : ¬ ((waiting.control.take recordSize).length = recordSize ∧
      isSampleSize (Lane.sampleSize (waiting.control.take recordSize)))) :
    waiting.first =
      (.error .controlWrong, { waiting with control := waiting.control.drop recordSize }) :=
  if_neg hunusable

end RawBlock

namespace MemoryBus

variable {bus : MemoryBus} {streams : ChannelStreams}

/-! ### Queues in the store -/

@[simp]
theorem length_queues_put (id : StreamId) (q : Queue) (bus : MemoryBus) :
    ((queue id).put q bus).queues.length = bus.queues.length :=
  List.length_set

theorem view_put_self {id : StreamId} (hid : id < bus.queues.length) (q : Queue) :
    (queue id).view ((queue id).put q bus) = q := by
  show ((bus.queues.set id q)[id]?).getD {} = q
  rw [List.getElem?_set_self hid, Option.getD_some]

theorem view_put_ne {id other : StreamId} (hne : id ≠ other) (q : Queue) (bus : MemoryBus) :
    (queue other).view ((queue id).put q bus) = (queue other).view bus := by
  show ((bus.queues.set id q)[other]?).getD {} = (bus.queues[other]?).getD {}
  rw [List.getElem?_set_ne hne]

theorem put_view (id : StreamId) (bus : MemoryBus) :
    (queue id).put ((queue id).view bus) bus = bus := by
  have hset : bus.queues.set id ((bus.queues[id]?).getD {}) = bus.queues := by
    by_cases hid : id < bus.queues.length
    · rw [List.getElem?_eq_getElem hid, Option.getD_some, List.set_getElem_self]
    · exact List.set_eq_of_length_le (Nat.not_lt.mp hid)
  show { bus with queues := bus.queues.set id ((bus.queues[id]?).getD {}) } = bus
  rw [hset]

theorem put_put (id : StreamId) (q r : Queue) (bus : MemoryBus) :
    (queue id).put q ((queue id).put r bus) = (queue id).put q bus := by
  show { bus with queues := (bus.queues.set id r).set id q } =
    { bus with queues := bus.queues.set id q }
  rw [List.set_set]

theorem put_comm {id other : StreamId} (hne : id ≠ other) (q r : Queue) (bus : MemoryBus) :
    (queue id).put q ((queue other).put r bus) = (queue other).put r ((queue id).put q bus) := by
  show { bus with queues := (bus.queues.set other r).set id q } =
    { bus with queues := (bus.queues.set id q).set other r }
  rw [List.set_comm _ _ hne.symm]

/-! ### The pair of queues of a channel -/

/-- The two streams of a channel are different queues of the store. -/
structure HasQueues (bus : MemoryBus) (streams : ChannelStreams) : Prop where
  control_lt : streams.control < bus.queues.length
  data_lt : streams.data < bus.queues.length
  control_ne_data : streams.control ≠ streams.data

def waiting (bus : MemoryBus) (streams : ChannelStreams) : RawBlock where
  control := ((queue streams.control).view bus).bytes
  data := ((queue streams.data).view bus).bytes

def setWaiting (bus : MemoryBus) (streams : ChannelStreams) (raw : RawBlock) : MemoryBus :=
  (queue streams.data).put ⟨raw.data⟩ ((queue streams.control).put ⟨raw.control⟩ bus)

theorem HasQueues.of_length_le (h : bus.HasQueues streams) {other : MemoryBus}
    (hlength : bus.queues.length ≤ other.queues.length) : other.HasQueues streams :=
  ⟨Nat.lt_of_lt_of_le h.control_lt hlength, Nat.lt_of_lt_of_le h.data_lt hlength,
    h.control_ne_data⟩

theorem HasQueues.setWaiting (h : bus.HasQueues streams) (other : ChannelStreams) (raw : RawBlock) :
    (bus.setWaiting other raw).HasQueues streams := by
  have hlength : (bus.setWaiting other raw).queues.length = bus.queues.length := by
    rw [MemoryBus.setWaiting, length_queues_put, length_queues_put]
  exact h.of_length_le (Nat.le_of_eq hlength.symm)

theorem waiting_setWaiting (h : bus.HasQueues streams) (raw : RawBlock) :
    (bus.setWaiting streams raw).waiting streams = raw := by
  have hdata : streams.data < ((queue streams.control).put ⟨raw.control⟩ bus).queues.length := by
    rw [length_queues_put]
    exact h.data_lt
  rw [waiting, setWaiting, view_put_ne h.control_ne_data.symm, view_put_self h.control_lt,
    view_put_self hdata]

theorem setWaiting_waiting (bus : MemoryBus) (streams : ChannelStreams) :
    bus.setWaiting streams (bus.waiting streams) = bus := by
  have hcontrol : (queue streams.control).put ⟨(bus.waiting streams).control⟩ bus = bus :=
    put_view streams.control bus
  rw [setWaiting, hcontrol]
  exact put_view streams.data bus

theorem setWaiting_setWaiting (h : bus.HasQueues streams) (raw former : RawBlock) :
    (bus.setWaiting streams former).setWaiting streams raw = bus.setWaiting streams raw := by
  rw [setWaiting, setWaiting, setWaiting, put_comm h.control_ne_data, put_put, put_put]

theorem view_put_empty (id : StreamId) {other : StreamId} (h : (queue other).view bus = {}) :
    (queue other).view ((queue id).put {} bus) = {} := by
  by_cases heq : id = other
  · subst heq
    rw [← h, put_view]
  · rw [view_put_ne heq]
    exact h

/-- Emptying a channel leaves every channel empty that was empty, also one that shares a queue. -/
theorem waiting_setWaiting_empty {other : ChannelStreams} (h : bus.waiting other = {}) :
    (bus.setWaiting streams {}).waiting other = {} := by
  obtain ⟨hcontrol, hdata⟩ := RawBlock.mk.injEq .. ▸ h
  have hview : ∀ id, ((queue id).view bus).bytes = [] →
      ((queue id).view (bus.setWaiting streams {})).bytes = [] := by
    intro id hid
    have hempty : (queue id).view bus = {} := congrArg Queue.mk hid
    have hput := view_put_empty streams.data (view_put_empty streams.control hempty)
    exact congrArg Queue.bytes hput
  rw [waiting, hview _ hcontrol, hview _ hdata]

theorem setWaiting_control (h : bus.HasQueues streams) (rest : Bytes) :
    (queue streams.control).put ⟨rest⟩ bus =
      bus.setWaiting streams { bus.waiting streams with control := rest } := by
  have hdata : (⟨(bus.waiting streams).data⟩ : Queue) =
      (queue streams.data).view ((queue streams.control).put ⟨rest⟩ bus) := by
    rw [view_put_ne h.control_ne_data]
    rfl
  rw [setWaiting, hdata, put_view]

/-! ### Transfers -/

theorem readControl_eq (hqueues : bus.HasQueues streams) (limit : Nat) :
    (queue streams.control).readUpTo limit bus =
      (.ok ((bus.waiting streams).control.take limit),
        bus.setWaiting streams
          { bus.waiting streams with control := (bus.waiting streams).control.drop limit }) := by
  rw [Lens.readUpTo_queue, setWaiting_control hqueues]
  rfl

theorem readData_eq (hqueues : bus.HasQueues streams) (limit : Nat) (rest : Bytes) :
    (queue streams.data).readUpTo limit
        (bus.setWaiting streams { bus.waiting streams with control := rest }) =
      (.ok ((bus.waiting streams).data.take limit),
        bus.setWaiting streams
          { control := rest, data := (bus.waiting streams).data.drop limit }) := by
  rw [← setWaiting_control hqueues, Lens.readUpTo_queue, view_put_ne hqueues.control_ne_data]
  rfl

theorem flush_eq (id : StreamId) (bus : MemoryBus) : (queue id).flush bus = (.ok (), bus) := by
  rw [Lens.flush_queue, put_view]

theorem readBlock_eq (hqueues : bus.HasQueues streams) (hinput : streams.direction = .input) :
    Backend.readBlock streams bus =
      ((bus.waiting streams).first.1, bus.setWaiting streams (bus.waiting streams).first.2) := by
  have hrecord : (Backend.lens streams.control).readUpTo recordSize bus = _ :=
    readControl_eq hqueues recordSize
  rw [Backend.readBlock_of_input hinput, hrecord]
  dsimp only
  by_cases husable : ((bus.waiting streams).control.take recordSize).length = recordSize ∧
      isSampleSize (Lane.sampleSize ((bus.waiting streams).control.take recordSize))
  · have hpayload (limit : Nat) (rest : Bytes) : (Backend.lens streams.data).readUpTo limit
        (bus.setWaiting streams { bus.waiting streams with control := rest }) = _ :=
      readData_eq hqueues limit rest
    rw [if_pos husable, RawBlock.first_of_usable rfl husable.1 husable.2, hpayload]
  · rw [if_neg husable, RawBlock.first_of_unusable husable]

theorem writeBlock_eq {block : RawBlock} (hqueues : bus.HasQueues streams)
    (houtput : streams.direction = .output) (hlength : recordSize ≤ block.control.length) :
    Backend.writeBlock streams block bus =
      (.ok (), bus.setWaiting streams (bus.waiting streams ++ block)) := by
  unfold Backend.writeBlock Lane.writeBlock
  simp only [Backend.lane, houtput, ne_eq, not_true_eq_false, if_false, Nat.not_lt.mpr hlength]
  refine (Effect.bind_of_ok (Lens.writeAll_queue (queue streams.control) _ _)).trans ?_
  refine (Effect.bind_of_ok (flush_eq streams.control _)).trans ?_
  refine (Effect.bind_of_ok (Lens.writeAll_queue (queue streams.data) _ _)).trans ?_
  refine (flush_eq streams.data _).trans ?_
  rw [view_put_ne hqueues.control_ne_data]
  rfl

theorem push_eq {name : String} (hqueues : bus.HasQueues streams)
    (hname : bus.streams.find? name = some ⟨streams.data, streams.control⟩) (block : RawBlock) :
    bus.push name block = bus.setWaiting streams (bus.waiting streams ++ block) := by
  rw [push, hname]
  show pushTo (pushTo bus streams.control block.control) streams.data block.data = _
  rw [pushTo, pushTo, view_put_ne hqueues.control_ne_data]
  rfl

theorem drain_eq {name : String}
    (hname : bus.streams.find? name = some ⟨streams.data, streams.control⟩) :
    bus.drain name = (bus.waiting streams, bus.setWaiting streams {}) := by
  rw [drain, hname]
  rfl

end MemoryBus

end DaqBus

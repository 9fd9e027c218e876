import DaqBus.Proofs.Channel.Connected
import DaqBus.Proofs.Memory.Opening
import DaqBus.Proofs.Memory.Record

/-!
# The channels of an open device

A store gives every registered channel two queues of its own, and an opening takes the queues of each
channel from the register. So every channel of a device that was just opened is connected, and on a
store that has seen no traffic nothing waits on it.
-/

namespace DaqBus

open Memory

namespace MemoryBus

variable {bus : MemoryBus}

/-- Every registered channel has two queues. -/
def Sound (bus : MemoryBus) : Prop :=
  ∀ (name : String) (streams : ChannelStreams),
    bus.streams.find? name = some ⟨streams.data, streams.control⟩ → bus.HasQueues streams

/-- No byte waits anywhere. -/
def Quiet (bus : MemoryBus) : Prop := ∀ q ∈ bus.queues, q = {}

theorem sound_empty : ({} : MemoryBus).Sound := by
  intro name streams hfind
  cases hfind

theorem quiet_empty : ({} : MemoryBus).Quiet := by
  intro q hmem
  cases hmem

theorem Sound.of_streams (h : bus.Sound) {other : MemoryBus} (hstreams : other.streams = bus.streams)
    (hlength : bus.queues.length ≤ other.queues.length) : other.Sound := by
  intro name streams hfind
  rw [hstreams] at hfind
  exact (h name streams hfind).of_length_le hlength

theorem Sound.addStreams (h : bus.Sound) (channel : String) : (bus.addStreams channel).Sound := by
  intro name streams hfind
  have hlength : (bus.addStreams channel).queues.length = bus.queues.length + 2 := List.length_append
  rw [MemoryBus.addStreams, Table.find?_insert] at hfind
  by_cases hname : name = channel
  · -- The new numbers are the first two behind the queues that were there.
    rw [if_pos hname] at hfind
    obtain ⟨hdata, hcontrol⟩ := StreamPair.mk.inj (Option.some.inj hfind)
    refine ⟨?_, ?_, ?_⟩
    · rw [hlength, ← hcontrol]
      exact Nat.lt_succ_self _
    · rw [hlength, ← hdata]
      exact Nat.lt_add_of_pos_right Nat.two_pos
    · rw [← hcontrol, ← hdata]
      exact Nat.succ_ne_self _
  · rw [if_neg hname] at hfind
    apply (h name streams hfind).of_length_le
    rw [hlength]
    exact Nat.le_add_right _ 2

theorem Quiet.addStreams (h : bus.Quiet) (channel : String) : (bus.addStreams channel).Quiet := by
  intro q hmem
  rcases List.mem_append.mp hmem with hold | hnew
  · exact h q hold
  · simpa using hnew

theorem addDevice_induction {motive : MemoryBus → Prop} (h : motive bus) (device : Blueprint)
    (hfile : ∀ bus path content, motive bus → motive (setFile bus path content))
    (hstreams : ∀ bus channel, motive bus → motive (addStreams bus channel))
    (hdevices : ∀ (bus : MemoryBus) devices, motive bus → motive { bus with devices }) :
    motive (bus.addDevice device) := by
  apply hdevices
  apply List.foldlRecOn
  · apply List.foldlRecOn
    · exact h
    · intro later hlater file _
      exact hfile later file.1 file.2 hlater
  · intro later hlater channel _
    exact hstreams later channel hlater

theorem Sound.addDevice (h : bus.Sound) (device : Blueprint) : (bus.addDevice device).Sound :=
  addDevice_induction h device (fun _ _ _ h => h.of_streams rfl (Nat.le_refl _))
    (fun _ channel h => h.addStreams channel) (fun _ _ h => h.of_streams rfl (Nat.le_refl _))

theorem Quiet.addDevice (h : bus.Quiet) (device : Blueprint) : (bus.addDevice device).Quiet :=
  addDevice_induction h device (fun _ _ _ h => h) (fun _ channel h => h.addStreams channel)
    (fun _ _ h => h)

theorem Quiet.waiting (h : bus.Quiet) (streams : ChannelStreams) : bus.waiting streams = {} := by
  have hview : ∀ id, (queue id).view bus = {} := by
    intro id
    show (bus.queues[id]?).getD {} = {}
    cases hid : bus.queues[id]? with
    | none => rfl
    | some q => exact h q (List.mem_of_getElem? hid)
  rw [MemoryBus.waiting, hview, hview]

end MemoryBus

/-! ### Openings -/

namespace Bus

variable {bus after : Bus MemoryBus} {name : String} {id : Option UInt32} {device : Device}

/-- **Channels of an open device.** -/
theorem connected_of_openDevice (hsound : bus.store.Sound)
    (hnumbers : ∀ number ∈ bus.closed, number < bus.opened)
    (hopen : openDevice name id bus = (.ok device, after)) {set : ChannelSet}
    (hset : set ∈ device.sets) {channel : Channel} (hchannel : channel ∈ set.channels) :
    channel.Connected after := by
  obtain ⟨hstore, hclosed, -, record, blueprint, -, hrecord, rfl⟩ := openDevice_eq_ok hopen
  obtain ⟨setRecord, hsetRecord, rfl⟩ := List.mem_map.mp hset
  obtain ⟨channelRecord, hchannelRecord, rfl⟩ := List.mem_map.mp hchannel
  have hstreams := Blueprint.streams_of_record? hrecord hsetRecord hchannelRecord
  have hopened : bus.opened ∉ bus.closed := fun hmem => Nat.lt_irrefl _ (hnumbers _ hmem)
  refine ⟨?_, ?_, ?_⟩
  · show after.closed.contains bus.opened = false
    rw [hclosed]
    simpa using hopened
  · rw [hstore]
    exact hsound _ _ hstreams
  · rw [hstore]
    exact hstreams

/-- On a bus whose store has only had devices registered, every channel of an opened device is
idle. -/
theorem idle_of_registered {devices : List Blueprint}
    (hopen : openDevice name id { store := devices.foldl MemoryBus.addDevice {} } =
      (.ok device, after)) {set : ChannelSet} (hset : set ∈ device.sets) {channel : Channel}
    (hchannel : channel ∈ set.channels) :
    channel.Idle after := by
  have hstore : (devices.foldl MemoryBus.addDevice {}).Sound ∧
      (devices.foldl MemoryBus.addDevice {}).Quiet := by
    refine List.foldlRecOn (motive := fun store => store.Sound ∧ store.Quiet) devices
      MemoryBus.addDevice ?_ ?_
    · exact ⟨MemoryBus.sound_empty, MemoryBus.quiet_empty⟩
    · intro bus hbus blueprint _
      exact ⟨hbus.1.addDevice blueprint, hbus.2.addDevice blueprint⟩
  have hnumbers : ∀ number ∈ ([] : List Nat), number < 0 := fun number hmem => nomatch hmem
  refine ⟨connected_of_openDevice hstore.1 hnumbers hopen hset hchannel, ?_⟩
  rw [Channel.waiting, (openDevice_eq_ok hopen).1]
  exact hstore.2.waiting channel.streams

end Bus

end DaqBus

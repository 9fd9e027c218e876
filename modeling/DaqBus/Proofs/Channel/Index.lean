import DaqBus.Proofs.Memory.Registered
import DaqBus.Proofs.Text.Numeral
import Mathlib.Data.List.Basic

/-!
# Channels by their numbers

All channels of a store are kept in one register, under names that are put together from numbers. The
names of different channels of a device differ, so the channels of an open device share no queue.
-/

namespace DaqBus

open Memory

/-- Which channel of a device: the number of its set, and its number in the set. -/
structure ChannelIndex where
  set : Nat
  channel : Nat
deriving DecidableEq, Repr

/-- The name of a channel is taken apart from its end, where two numbers follow the name of the
device. -/
theorem Memory.Blueprint.channelDeviceName_inj {blueprint other : Blueprint} {i j i' j' : Nat}
    (h : blueprint.channelDeviceName i j = other.channelDeviceName i' j') :
    blueprint.deviceName = other.deviceName ∧ i = i' ∧ j = j' := by
  have hdigits (n : Nat) : '-' ∉ (toString n).toList := fun hmem =>
    absurd (Text.isDigit_of_mem_toString hmem) (by decide)
  have hchannel (blueprint : Blueprint) (i j : Nat) : (blueprint.channelDeviceName i j).toList =
      (blueprint.setDeviceName i).toList ++ '-' :: (toString j).toList := by
    simp [Blueprint.channelDeviceName, toString]
  have hset (blueprint : Blueprint) (i : Nat) : (blueprint.setDeviceName i).toList =
      blueprint.deviceName.toList ++ '-' :: (toString i).toList := by
    simp [Blueprint.setDeviceName, toString]
  have hnames := congrArg String.toList h
  rw [hchannel, hchannel] at hnames
  obtain ⟨hsets, hj⟩ := Text.back_inj (hdigits j) (hdigits j') hnames
  rw [hset, hset] at hsets
  obtain ⟨hdevices, hi⟩ := Text.back_inj (hdigits i) (hdigits i') hsets
  exact ⟨String.toList_injective hdevices, Text.toString_inj (String.toList_injective hi),
    Text.toString_inj (String.toList_injective hj)⟩

def Device.channel? (device : Device) (index : ChannelIndex) : Option Channel :=
  device.sets[index.set]?.bind fun set => set.channels[index.channel]?

theorem Device.exists_set_of_channel? {device : Device} {index : ChannelIndex} {channel : Channel}
    (h : device.channel? index = some channel) :
    ∃ set, device.sets[index.set]? = some set ∧ set.channels[index.channel]? = some channel :=
  Option.bind_eq_some_iff.mp h

theorem Device.opening_of_channel? {opening : Opening} {id : Option UInt32} {record : DeviceRecord}
    {index : ChannelIndex} {channel : Channel}
    (h : (Device.ofRecord opening id record).channel? index = some channel) :
    channel.opening = opening := by
  obtain ⟨set, hset, hchannel⟩ := Device.exists_set_of_channel? h
  obtain ⟨setRecord, -, rfl⟩ := Option.map_eq_some_iff.mp (List.getElem?_map ▸ hset)
  obtain ⟨channelRecord, -, rfl⟩ := Option.map_eq_some_iff.mp (List.getElem?_map ▸ hchannel)
  rfl

/-- No two channels of the device share a stream. -/
def Device.HasOwnStreams (device : Device) : Prop :=
  ∀ {index index' channel other}, index ≠ index' → device.channel? index = some channel →
    device.channel? index' = some other → channel.streams.Apart other.streams

namespace Memory.Blueprint

variable {blueprint : Blueprint} {register : String → Option StreamPair} {record : DeviceRecord}
  {opening : Opening} {id : Option UInt32} {index : ChannelIndex} {channel : Channel}

def HasChannel (blueprint : Blueprint) (index : ChannelIndex) : Prop :=
  ∃ set, blueprint.sets[index.set]? = some set ∧ index.channel < set.channels

/-- A channel with numbers is made from the record that the blueprint gives for them. -/
theorem exists_channelRecord_of_channel? (hrecord : blueprint.record? register = some record)
    (hchannel : (Device.ofRecord opening id record).channel? index = some channel) :
    ∃ set made, blueprint.sets[index.set]? = some set ∧ index.channel < set.channels ∧
      blueprint.channelRecord? register index.set set index.channel = some made ∧
      channel = Channel.ofRecord opening made := by
  simp only [record?, Option.pure_def, Option.bind_eq_bind, Option.bind_eq_some_iff,
    Option.some.injEq] at hrecord
  obtain ⟨sets, hsets, rfl⟩ := hrecord
  obtain ⟨set, hset, hchannel⟩ := Device.exists_set_of_channel? hchannel
  obtain ⟨setRecord, hsetRecord, rfl⟩ := Option.map_eq_some_iff.mp (List.getElem?_map ▸ hset)
  obtain ⟨channelRecord, hchannelRecord, rfl⟩ :=
    Option.map_eq_some_iff.mp (List.getElem?_map ▸ hchannel)
  obtain ⟨⟨setBlueprint, i⟩, hentry, hmade⟩ := exists_of_mapM_getElem? hsets hsetRecord
  rw [List.getElem?_zipIdx, Option.map_eq_some_iff] at hentry
  obtain ⟨_, hblueprint, hentry⟩ := hentry
  rw [Nat.zero_add, Prod.mk.injEq] at hentry
  obtain ⟨rfl, rfl⟩ := hentry
  simp only [setRecord?, Option.pure_def, Option.bind_eq_bind, Option.bind_eq_some_iff,
    Option.some.injEq] at hmade
  obtain ⟨channels, hchannels, rfl⟩ := hmade
  obtain ⟨j, hnumber, hmade⟩ := exists_of_mapM_getElem? hchannels hchannelRecord
  obtain ⟨hlt, hnumber⟩ := List.getElem?_eq_some_iff.mp hnumber
  rw [List.getElem_range] at hnumber
  rw [List.length_range] at hlt
  subst hnumber
  exact ⟨_, channelRecord, hblueprint, hlt, hmade, rfl⟩

theorem hasChannel_of_channel? (hrecord : blueprint.record? register = some record)
    (hchannel : (Device.ofRecord opening id record).channel? index = some channel) :
    blueprint.HasChannel index := by
  obtain ⟨set, -, hset, hlt, -⟩ := exists_channelRecord_of_channel? hrecord hchannel
  exact ⟨set, hset, hlt⟩

/-- A channel is called by its numbers, and its streams are those that stand under its name. -/
theorem streams_of_channel? (hrecord : blueprint.record? register = some record)
    (hchannel : (Device.ofRecord opening id record).channel? index = some channel) :
    channel.node.deviceName = blueprint.channelDeviceName index.set index.channel ∧
      register channel.node.deviceName = some ⟨channel.streams.data, channel.streams.control⟩ := by
  obtain ⟨set, made, -, -, hmade, rfl⟩ := exists_channelRecord_of_channel? hrecord hchannel
  simp only [channelRecord?, Option.pure_def, Option.bind_eq_bind, Option.bind_eq_some_iff,
    Option.some.injEq] at hmade
  obtain ⟨pair, hpair, rfl⟩ := hmade
  exact ⟨rfl, hpair⟩

end Memory.Blueprint

namespace Bus

variable {bus after : Bus MemoryBus} {name : String} {id : Option UInt32} {device : Device}

/-- Every channel of a device that was opened has queues. -/
theorem hasQueues_of_openDevice (hsound : bus.store.Sound)
    (hopen : openDevice name id bus = (.ok device, after)) {index : ChannelIndex} {channel : Channel}
    (hchannel : device.channel? index = some channel) : bus.store.HasQueues channel.streams := by
  obtain ⟨-, -, -, record, blueprint, -, hrecord, rfl⟩ := openDevice_eq_ok hopen
  exact hsound _ _ (Blueprint.streams_of_channel? hrecord hchannel).2

/-- Different channels of a device share no queue. -/
theorem hasOwnStreams_of_openDevice (hseparate : bus.store.Separate)
    (hopen : openDevice name id bus = (.ok device, after)) : device.HasOwnStreams := by
  obtain ⟨-, -, -, record, blueprint, -, hrecord, rfl⟩ := openDevice_eq_ok hopen
  intro index index' channel other hne hchannel hother
  obtain ⟨hname, hstreams⟩ := Blueprint.streams_of_channel? hrecord hchannel
  obtain ⟨hname', hstreams'⟩ := Blueprint.streams_of_channel? hrecord hother
  refine hseparate _ _ _ _ ?_ hstreams hstreams'
  rw [hname, hname']
  intro heq
  obtain ⟨-, hset, hnumber⟩ := Blueprint.channelDeviceName_inj heq
  exact hne (by cases index; cases index'; simp_all)

variable {devices : List Blueprint} {index index' : ChannelIndex} {channel other : Channel}

theorem apart_of_openDevice
    (hopen : openDevice name id { store := devices.foldl MemoryBus.addDevice {} } =
      (.ok device, after)) (hne : index ≠ index') (hchannel : device.channel? index = some channel)
    (hother : device.channel? index' = some other) : channel.streams.Apart other.streams :=
  hasOwnStreams_of_openDevice (MemoryBus.pristine_foldl_addDevice devices).separate hopen hne hchannel
    hother

theorem idle_of_channel?
    (hopen : openDevice name id { store := devices.foldl MemoryBus.addDevice {} } =
      (.ok device, after)) (hchannel : device.channel? index = some channel) :
    channel.Idle after := by
  obtain ⟨set, hset, hmem⟩ := Device.exists_set_of_channel? hchannel
  exact idle_of_registered hopen (List.mem_of_getElem? hset) (List.mem_of_getElem? hmem)

end Bus

end DaqBus

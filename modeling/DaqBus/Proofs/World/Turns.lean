import DaqBus.Proofs.Memory.Sight
import DaqBus.Proofs.World.Wired
import Mathlib.Data.List.Induction

/-!
# Taking turns on a bus in memory

Any number of programs work with devices of one store, and the store is told things from outside. A turn
is one such step, on whichever device. What comes of it depends on the turns before, of which two things
last: an opening keeps its number, and a queue keeps the name of the channel that it was made for.
-/

namespace DaqBus

open Memory Effect

/-! ### Work on a device -/

/-- What a program can do with a device and with the streams of its channels. -/
inductive Device.Task
  | uses (access : Access)
  | readsControl (index : ChannelIndex)
  | readsAlarms (index : ChannelIndex)
  | flushes (index : ChannelIndex)
  | flushesAll (set : Nat)
  | closes
  | readsBlock (index : ChannelIndex)
  | writesBlock (index : ChannelIndex) (block : Block)
  /-- One block is read from each channel of a set. -/
  | sweeps (set : Nat)
  /-- Bytes are put into the streams of a channel from the other end. -/
  | pushes (index : ChannelIndex) (raw : RawBlock)
  | drains (index : ChannelIndex)

inductive Device.Yield
  | answer (answer : Answer)
  | header (header : Control.Header)
  | alarms (alarms : ChannelAlarms)
  | block (block : Block)
  | blocks (blocks : List Block)
  | drained (raw : RawBlock)
  | done
  /-- The device has no such part. -/
  | missing

namespace Device

/-- Whether the task has to do with what is in the streams. -/
def Task.isTransfer : Task → Bool
  | readsBlock _ | writesBlock _ _ | sweeps _ | pushes _ _ | drains _ => true
  | uses _ | readsControl _ | readsAlarms _ | flushes _ | flushesAll _ | closes => false

def onChannel (device : Device) (index : ChannelIndex)
    (work : Channel → BusM MemoryBus BusError Yield) : BusM MemoryBus BusError Yield :=
  match device.channel? index with
  | some channel => work channel
  | none => return .missing

def onSet (device : Device) (number : Nat)
    (work : ChannelSet → BusM MemoryBus BusError Yield) : BusM MemoryBus BusError Yield :=
  match device.sets[number]? with
  | some set => work set
  | none => return .missing

def perform (device : Device) : Task → BusM MemoryBus BusError Yield
  | .uses access =>
    if access.handle ∈ device.handles then .answer <$> access.run else return .missing
  | .readsControl index => device.onChannel index fun channel => .header <$> channel.readControl
  | .readsAlarms index => device.onChannel index fun channel => .alarms <$> channel.alarms
  | .flushes index => device.onChannel index fun channel =>
    (fun _ => .done) <$> channel.buffer.flush
  | .flushesAll number => device.onSet number fun set => (fun _ => .done) <$> set.flushAll
  | .closes => (fun _ => .done) <$> device.close
  | .readsBlock index => device.onChannel index fun channel => .block <$> channel.readBlock
  | .writesBlock index block => device.onChannel index fun channel =>
    (fun _ => .done) <$> channel.writeBlock block
  | .sweeps number => device.onSet number fun set => .blocks <$> set.readBlocks
  | .pushes index raw => device.onChannel index fun channel bus =>
    (.ok .done, channel.push raw bus)
  | .drains index => device.onChannel index fun channel bus =>
    (.ok (.drained (channel.drain bus).1), (channel.drain bus).2)

variable {device : Device} {index : ChannelIndex} {channel : Channel}

theorem mem_handles_of_mem_registers {set : ChannelSet} {handle : Attribute} (hset : set ∈ device.sets)
    (h : handle ∈ set.registers) : handle ∈ device.handles :=
  List.mem_append_right _ (List.mem_flatMap.mpr ⟨set, hset, h⟩)

theorem mem_handles_of_mem_channels {set : ChannelSet} {handle : Attribute} (hset : set ∈ device.sets)
    (hchannel : channel ∈ set.channels)
    (h : handle ∈ [channel.currentControl, channel.alarmRegister, channel.buffer.flushSwitch]) :
    handle ∈ device.handles := by
  refine mem_handles_of_mem_registers hset (List.mem_append_right _ ?_)
  exact List.mem_flatMap.mpr ⟨channel, hchannel, h⟩

theorem mem_handles_of_channel? (hchannel : device.channel? index = some channel) {handle : Attribute}
    (h : handle ∈ [channel.currentControl, channel.alarmRegister, channel.buffer.flushSwitch]) :
    handle ∈ device.handles := by
  obtain ⟨set, hset, hmem⟩ := exists_set_of_channel? hchannel
  exact mem_handles_of_mem_channels (List.mem_of_getElem? hset) (List.mem_of_getElem? hmem) h

theorem exists_index_of_mem_channels {set : ChannelSet} {number : Nat}
    (hset : device.sets[number]? = some set) (hchannel : channel ∈ set.channels) :
    ∃ index, device.channel? index = some channel := by
  obtain ⟨k, hk⟩ := List.getElem?_of_mem hchannel
  exact ⟨⟨number, k⟩, Option.bind_eq_some_iff.mpr ⟨set, hset, hk⟩⟩

end Device

/-! ### Devices in sight -/

/-- Which parts of a device are in sight. -/
structure Scope.Parts where
  opening : Bool := false
  files : Bool := false
  streams : Bool := false

/-- Whether the task has to do with a part in sight. -/
def Device.Task.isSeen (parts : Scope.Parts) : Device.Task → Bool
  | closes => parts.opening
  | uses _ | readsControl _ | readsAlarms _ | flushes _ | flushesAll _ => parts.files
  | readsBlock _ | writesBlock _ _ | sweeps _ | pushes _ _ | drains _ => parts.streams

theorem Device.Task.isSeen_hidden (task : Device.Task) : task.isSeen {} = false := by
  cases task <;> rfl

namespace Scope

variable {F : Scope} {device : Device} {b c : Bus MemoryBus} {parts : Parts}
  {streams visible : Bool}

/-- These parts of the device are in sight, and the others are not. -/
structure Hosts (F : Scope) (parts : Parts) (device : Device) : Prop where
  opening : F.openings device.opening.number ↔ parts.opening = true
  places : ∀ handle ∈ device.handles, F.Places parts.files handle
  carries : ∀ {index channel}, device.channel? index = some channel →
    F.Carries parts.streams channel

/-- The streams that stand under the names of the channels are in sight or not. -/
def Wires (F : Scope) (streams : Bool) (device : Device) (store : MemoryBus) : Prop :=
  ∀ {index channel pair}, device.channel? index = some channel →
    store.streams.find? channel.node.deviceName = some pair →
    (F.streams pair.data ↔ streams = true) ∧ (F.streams pair.control ↔ streams = true)

theorem keepsAt_onChannel (h : F.Alike b c) (index : ChannelIndex)
    {work : Channel → BusM MemoryBus BusError Device.Yield}
    (hwork : ∀ channel, device.channel? index = some channel →
      KeepsAt visible F.Alike (work channel) b c) :
    KeepsAt visible F.Alike (device.onChannel index work) b c := by
  unfold Device.onChannel
  cases hchannel : device.channel? index with
  | none => exact (keeps_pure visible _).keepsAt h
  | some channel => exact hwork channel hchannel

theorem keepsAt_onSet (h : F.Alike b c) (number : Nat)
    {work : ChannelSet → BusM MemoryBus BusError Device.Yield}
    (hwork : ∀ set, device.sets[number]? = some set → KeepsAt visible F.Alike (work set) b c) :
    KeepsAt visible F.Alike (device.onSet number work) b c := by
  unfold Device.onSet
  cases hset : device.sets[number]? with
  | none => exact (keeps_pure visible _).keepsAt h
  | some set => exact hwork set hset

theorem Wires.misses (h : F.Wires false device b.store) {index : ChannelIndex} {channel : Channel}
    (hchannel : device.channel? index = some channel) {pair : StreamPair}
    (hpair : b.store.streams.find? channel.node.deviceName = some pair) : F.MissesStreams pair := by
  obtain ⟨hdata, hcontrol⟩ := h hchannel hpair
  exact ⟨fun hseen => Bool.false_ne_true (hdata.mp hseen),
    fun hseen => Bool.false_ne_true (hcontrol.mp hseen)⟩

theorem keepsAt_pushes (hwires : F.Wires streams device b.store) (h : F.Alike b c)
    (index : ChannelIndex) (raw : RawBlock) :
    KeepsAt streams F.Alike (device.perform (.pushes index raw)) b c := by
  refine keepsAt_onChannel h index fun channel hchannel => ?_
  cases streams with
  | true => exact ⟨rfl, h.store.push _ raw, h.opened, h.isClosed⟩
  | false =>
      have hafter := h.store.push_of_misses (fun pair => hwires.misses hchannel) raw
      exact ⟨hafter, h.opened, h.isClosed⟩

theorem keepsAt_drains (hwires : F.Wires streams device b.store) (h : F.Alike b c)
    (index : ChannelIndex) :
    KeepsAt streams F.Alike (device.perform (.drains index)) b c := by
  refine keepsAt_onChannel h index fun channel hchannel => ?_
  cases streams with
  | true =>
      have htaken : (channel.drain b).1 = (channel.drain c).1 := by
        refine h.store.fst_drain fun pair hpair => ?_
        obtain ⟨hdata, hcontrol⟩ := hwires hchannel hpair
        exact ⟨hdata.mpr rfl, hcontrol.mpr rfl⟩
      refine ⟨?_, h.store.drain _, h.opened, h.isClosed⟩
      exact congrArg (fun raw => Except.ok (Device.Yield.drained raw)) htaken
  | false =>
      have hafter := h.store.drain_of_misses fun pair => hwires.misses hchannel
      exact ⟨hafter, h.opened, h.isClosed⟩

/-- **One task.** If what it has to do with is in sight, it tells the same on buses that are alike, and
they stay alike; if not, it cannot be noticed. -/
theorem Hosts.keepsAt_perform (h : F.Hosts parts device)
    (hwires : F.Wires parts.streams device b.store) (hbus : F.Alike b c) (task : Device.Task) :
    KeepsAt (task.isSeen parts) F.Alike (device.perform task) b c := by
  have hregister {index : ChannelIndex} {channel : Channel}
      (hchannel : device.channel? index = some channel) {handle : Attribute}
      (hhandle : handle ∈
        [channel.currentControl, channel.alarmRegister, channel.buffer.flushSwitch]) :
      F.Places parts.files handle :=
    h.places handle (Device.mem_handles_of_channel? hchannel hhandle)
  cases task with
  | uses access =>
      have hkeeps : Keeps parts.files F.Alike (device.perform (.uses access)) := by
        rw [Device.perform]
        split
        next hmem => exact (keeps_run (h.places _ hmem)).map _
        next => exact keeps_pure parts.files _
      exact hkeeps.keepsAt hbus
  | readsControl index =>
      refine keepsAt_onChannel hbus index fun channel hchannel => Keeps.keepsAt ?_ hbus
      exact (keeps_readControl (hregister hchannel (by simp))).map _
  | readsAlarms index =>
      refine keepsAt_onChannel hbus index fun channel hchannel => Keeps.keepsAt ?_ hbus
      exact (keeps_alarms (hregister hchannel (by simp))).map _
  | flushes index =>
      refine keepsAt_onChannel hbus index fun channel hchannel => Keeps.keepsAt ?_ hbus
      exact (keeps_flush (hregister hchannel (by simp))).map _
  | flushesAll number =>
      refine keepsAt_onSet hbus number fun set hset => Keeps.keepsAt ?_ hbus
      refine (keeps_flushAll fun channel hchannel => h.places _ ?_).map _
      exact Device.mem_handles_of_mem_channels (List.mem_of_getElem? hset) hchannel (by simp)
  | closes => exact ((keeps_close h.opening).map _).keepsAt hbus
  | readsBlock index =>
      refine keepsAt_onChannel hbus index fun channel hchannel => Keeps.keepsAt ?_ hbus
      exact (h.carries hchannel).keeps_readBlock.map _
  | writesBlock index block =>
      refine keepsAt_onChannel hbus index fun channel hchannel => Keeps.keepsAt ?_ hbus
      exact ((h.carries hchannel).keeps_writeBlock block).map _
  | sweeps number =>
      refine keepsAt_onSet hbus number fun set hset => Keeps.keepsAt ?_ hbus
      refine (keeps_mapM fun channel hchannel => ?_).map _
      obtain ⟨index, hindex⟩ := Device.exists_index_of_mem_channels hset hchannel
      exact (h.carries hindex).keeps_readBlock
  | pushes index raw => exact keepsAt_pushes hwires hbus index raw
  | drains index => exact keepsAt_drains hwires hbus index

/-- Nothing is in sight. -/
def blind : Scope where
  paths _ := False
  streams _ := False
  openings _ := False

theorem hosts_blind (device : Device) : blind.Hosts {} device where
  opening := iff_of_false id Bool.false_ne_true
  places _ _ := ⟨iff_of_false id Bool.false_ne_true, fun h => absurd h Bool.false_ne_true⟩
  carries _ := ⟨iff_of_false id Bool.false_ne_true, iff_of_false id Bool.false_ne_true,
    fun h => absurd h Bool.false_ne_true⟩

theorem wires_blind (device : Device) (store : MemoryBus) : blind.Wires false device store :=
  fun _ _ => ⟨iff_of_false id Bool.false_ne_true, iff_of_false id Bool.false_ne_true⟩

end Scope

/-! ### Turns -/

inductive Turn
  | changes (change : MemoryBus.Change)
  | opens (name : String) (id : Option UInt32)
  | works (device : Device) (task : Device.Task)

inductive Turn.Reply
  | nothing
  | opened (outcome : Except BusError Device)
  | worked (outcome : Except BusError Device.Yield)

namespace Turn

/-- Whether the turn is taken through one of the devices. -/
def isBy (devices : Device → Bool) : Turn → Bool
  | works device _ => devices device
  | changes _ | opens _ _ => false

def isTransfer : Turn → Bool
  | works _ task => task.isTransfer
  | changes _ | opens _ _ => false

def run (bus : Bus MemoryBus) : Turn → Reply × Bus MemoryBus
  | changes change => (.nothing, { bus with store := change.apply bus.store })
  | opens name id => (.opened (Bus.openDevice name id bus).1, (Bus.openDevice name id bus).2)
  | works device task => (.worked (device.perform task bus).1, (device.perform task bus).2)

/-- The bus after turns on a bus with an empty store. -/
def bus (turns : List Turn) : Bus MemoryBus :=
  turns.foldl (fun bus turn => (turn.run bus).2) { store := {} }

/-- Takes turns and keeps what each of them answered. -/
def trace (bus : Bus MemoryBus) : List Turn → List (Turn × Reply)
  | [] => []
  | turn :: turns => (turn, (turn.run bus).1) :: trace (turn.run bus).2 turns

variable {turns : List Turn}

theorem bus_append_singleton (turns : List Turn) (turn : Turn) :
    bus (turns ++ [turn]) = (turn.run (bus turns)).2 :=
  List.foldl_concat ..

/-! ### Numbers that last -/

/-- Without eyes for anything, all work on devices is the same. -/
theorem alike_perform (device : Device) (task : Device.Task) (bus : Bus MemoryBus) :
    Scope.blind.Alike (device.perform task bus).2 bus := by
  have hkeeps := (Scope.hosts_blind device).keepsAt_perform (Scope.wires_blind device bus.store)
    (Scope.alike_refl bus) task
  rwa [task.isSeen_hidden] at hkeeps

theorem opened_le_run (turn : Turn) (bus : Bus MemoryBus) :
    bus.opened ≤ (turn.run bus).2.opened := by
  cases turn with
  | changes change => exact Nat.le_refl _
  | opens name id =>
      rcases Bus.openDevice_cases name id bus with ⟨failure, log, hopen⟩ | ⟨record, log, hopen⟩
      · exact Nat.le_of_eq (by rw [run, hopen])
      · refine Nat.le_trans (Nat.le_succ _) (Nat.le_of_eq ?_)
        rw [run, hopen]
  | works device task => exact Nat.le_of_eq (alike_perform device task bus).opened.symm

theorem opened_bus_le (turns later : List Turn) :
    (bus turns).opened ≤ (bus (turns ++ later)).opened := by
  induction later using List.reverseRecOn with
  | nil => exact Nat.le_of_eq (by rw [List.append_nil])
  | append_singleton later turn ih =>
      rw [← List.append_assoc, bus_append_singleton]
      exact Nat.le_trans ih (turn.opened_le_run _)

/-! ### Names that last -/

/-- The channels that get queues in a turn, one name for each queue. -/
def made : Turn → List String
  | changes (.addDevice device) => device.channelNames.flatMap fun name => [name, name]
  | changes _ | opens _ _ | works _ _ => []

end Turn

/-- The queues have labels, and those of a registered channel have its name. -/
structure MemoryBus.Labelled (store : MemoryBus) (labels : List String) : Prop where
  length_queues : store.queues.length = labels.length
  label : ∀ {name pair}, store.streams.find? name = some pair →
    labels[pair.data]? = some name ∧ labels[pair.control]? = some name

namespace MemoryBus

variable {store other : MemoryBus} {labels : List String}

theorem getElem?_of_append {id : StreamId} {name : String} (h : labels[id]? = some name)
    (more : List String) : (labels ++ more)[id]? = some name := by
  rw [List.getElem?_append_left (List.getElem?_eq_some_iff.mp h).1, h]

theorem Labelled.of_streams (h : store.Labelled labels) (hstreams : other.streams = store.streams)
    (hlength : other.queues.length = store.queues.length) : other.Labelled labels := by
  refine ⟨hlength.trans h.length_queues, fun hfind => ?_⟩
  rw [hstreams] at hfind
  exact h.label hfind

theorem Labelled.addStreams (h : store.Labelled labels) (channel : String) :
    (store.addStreams channel).Labelled (labels ++ [channel, channel]) := by
  refine ⟨?_, fun {name pair} hfind => ?_⟩
  · simp [MemoryBus.addStreams, h.length_queues]
  · rw [MemoryBus.addStreams, Table.find?_insert] at hfind
    by_cases hname : name = channel
    · rw [if_pos hname] at hfind
      cases Option.some.inj hfind
      simp [h.length_queues, hname]
    · rw [if_neg hname] at hfind
      obtain ⟨hdata, hcontrol⟩ := h.label hfind
      exact ⟨getElem?_of_append hdata _, getElem?_of_append hcontrol _⟩

theorem Labelled.foldl_addStreams (h : store.Labelled labels) (names : List String) :
    (names.foldl MemoryBus.addStreams store).Labelled
      (labels ++ names.flatMap fun name => [name, name]) := by
  induction names generalizing store labels with
  | nil => simpa using h
  | cons name names ih =>
      rw [List.flatMap_cons, ← List.append_assoc]
      exact ih (h.addStreams name)

theorem Labelled.addDevice (h : store.Labelled labels) (device : Blueprint) :
    (store.addDevice device).Labelled
      (labels ++ device.channelNames.flatMap fun name => [name, name]) := by
  obtain ⟨after, hfiles⟩ := foldl_setFile_eq device.files store
  have hmade : ({ store with files := after } : MemoryBus).Labelled labels := h.of_streams rfl rfl
  rw [MemoryBus.addDevice, hfiles]
  exact (hmade.foldl_addStreams device.channelNames).of_streams rfl rfl

end MemoryBus

namespace Turn

variable {turns : List Turn}

/-- Nothing but a registration changes what is registered. -/
theorem sameRegister_run (turn : Turn) (bus : Bus MemoryBus) :
    (∃ device, turn = .changes (.addDevice device)) ∨
      turn.made = [] ∧ MemoryBus.SameRegister (turn.run bus).2.store bus.store := by
  cases turn with
  | changes change =>
      rcases change.sameRegister_apply bus.store with ⟨device, rfl⟩ | hsame
      · exact .inl ⟨device, rfl⟩
      · cases change with
        | addDevice device => exact .inl ⟨device, rfl⟩
        | _ => exact .inr ⟨rfl, hsame⟩
  | opens name id =>
      refine .inr ⟨rfl, ?_⟩
      rcases Bus.openDevice_cases name id bus with ⟨failure, log, hopen⟩ | ⟨record, log, hopen⟩ <;>
        rw [run, hopen] <;> exact MemoryBus.sameRegister_refl _
  | works device task =>
      have hsame := (alike_perform device task bus).store
      exact .inr ⟨rfl, hsame.devices, hsame.register, hsame.length_queues⟩

theorem labelled_bus (turns : List Turn) : (bus turns).store.Labelled (turns.flatMap made) := by
  induction turns using List.reverseRecOn with
  | nil => exact ⟨rfl, fun hfind => nomatch hfind⟩
  | append_singleton turns turn ih =>
      rw [bus_append_singleton, List.flatMap_append, List.flatMap_singleton]
      rcases sameRegister_run turn (bus turns) with ⟨device, rfl⟩ | ⟨hmade, hsame⟩
      · exact ih.addDevice device
      · rw [hmade, List.append_nil]
        exact ih.of_streams hsame.streams hsame.length_queues

/-- What stands under a key was registered with this key in one of the turns. -/
theorem registered_of_find? {key : String} {blueprint : Blueprint}
    (h : (bus turns).store.devices.find? key = some blueprint) :
    blueprint.key = key ∧ .changes (.addDevice blueprint) ∈ turns := by
  induction turns using List.reverseRecOn with
  | nil => cases h
  | append_singleton turns turn ih =>
      rw [bus_append_singleton] at h
      rcases sameRegister_run turn (bus turns) with ⟨device, rfl⟩ | ⟨-, hsame⟩
      · have hfind : ((bus turns).store.addDevice device).devices.find? key = some blueprint := h
        rw [MemoryBus.find?_devices_addDevice] at hfind
        by_cases hkey : key = device.key
        · rw [if_pos hkey] at hfind
          cases Option.some.inj hfind
          exact ⟨hkey.symm, List.mem_concat_self⟩
        · rw [if_neg hkey] at hfind
          exact (ih hfind).imp_right (List.mem_append_left _)
      · rw [hsame.devices] at h
        exact (ih h).imp_right (List.mem_append_left _)

end Turn

end DaqBus

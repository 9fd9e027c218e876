import DaqBus.Proofs.Alike
import DaqBus.Proofs.Memory.Access
import DaqBus.Proofs.Memory.Change
import DaqBus.Proofs.Memory.Opening
import DaqBus.Proofs.Memory.Waiting
import DaqBus.Proofs.Tree.Handles
import DaqBus.Tree.Channel

/-!
# What can be seen of a bus in memory

An observer sees some files, some streams, and of some openings whether they are over. Work through
handles and streams that he sees tells him no more than that, work through others escapes him, and what
is told to the store from outside is the same to him wherever it is told.
-/

namespace DaqBus

open Memory Effect

structure Scope where
  paths : String → Prop
  streams : StreamId → Prop
  openings : Nat → Prop

namespace Scope

variable {F : Scope} {visible : Bool}

/-! ### Stores -/

/-- Stores on which the same is registered and set to fail, and which differ in no file and in no
stream that is seen. -/
structure Same (F : Scope) (store other : MemoryBus) : Prop where
  devices : store.devices = other.devices
  register : store.streams = other.streams
  openFailure : store.openFailure = other.openFailure
  failures : store.failures = other.failures
  files : ∀ path, F.paths path → store.files.find? path = other.files.find? path
  length_queues : store.queues.length = other.queues.length
  queues : ∀ id, F.streams id → store.queues[id]? = other.queues[id]?

variable {store other : MemoryBus} {path : String}

theorem same_refl (F : Scope) (store : MemoryBus) : F.Same store store :=
  ⟨rfl, rfl, rfl, rfl, fun _ _ => rfl, rfl, fun _ _ => rfl⟩

theorem Same.symm (h : F.Same store other) : F.Same other store :=
  ⟨h.devices.symm, h.register.symm, h.openFailure.symm, h.failures.symm,
    fun path hpath => (h.files path hpath).symm, h.length_queues.symm,
    fun id hid => (h.queues id hid).symm⟩

theorem Same.reach_eq (h : F.Same store other) (hpath : F.paths path) :
    store.reach path = other.reach path := by
  rw [MemoryBus.reach, MemoryBus.reach, h.failures, h.files path hpath]

/-- A read changes a count, which nobody sees. -/
theorem keeps_readRaw (hpath : visible = true → F.paths path) (limit : Nat) :
    Keeps visible F.Same (Backend.readRaw path limit : StoreM MemoryBus Bytes) := by
  have hraw (store : MemoryBus) : Backend.readRaw path limit store = _ :=
    MemoryBus.readRaw_eq path limit store
  cases visible with
  | true =>
      intro store other h
      rw [hraw, hraw, h.reach_eq (hpath rfl)]
      cases other.reach path with
      | error code => exact ⟨rfl, h⟩
      | ok file => exact ⟨rfl, { h with }⟩
  | false =>
      intro store other h
      rw [hraw]
      cases store.reach path with
      | error code => exact h
      | ok file => exact { h with }

theorem keeps_writeRaw (hpath : F.paths path ↔ visible = true) (content : Bytes) :
    Keeps visible F.Same (Backend.writeRaw path content : StoreM MemoryBus Unit) := by
  have hraw (store : MemoryBus) : Backend.writeRaw path content store = _ :=
    MemoryBus.writeRaw_eq path content store
  cases visible with
  | true =>
      intro store other h
      rw [hraw, hraw, h.reach_eq (hpath.mpr rfl)]
      cases other.reach path with
      | error code => exact ⟨rfl, h⟩
      | ok file =>
          refine ⟨rfl, { h with files := fun seen hseen => ?_ }⟩
          simp only [MemoryBus.replaced, Table.find?_insert, h.files seen hseen]
  | false =>
      intro store other h
      rw [hraw]
      cases store.reach path with
      | error code => exact h
      | ok file =>
          refine { h with files := fun seen hseen => ?_ }
          have hne : seen ≠ path := by
            rintro rfl
            exact absurd (hpath.mp hseen) (by decide)
          simp only [MemoryBus.replaced, Table.find?_insert, if_neg hne, h.files seen hseen]

theorem keeps_mode (hpath : visible = true → F.paths path) :
    Keeps visible F.Same (Backend.mode path : StoreM MemoryBus UInt32) := by
  have hmode (store : MemoryBus) : Backend.mode path store = _ := MemoryBus.mode_eq path store
  cases visible with
  | true =>
      intro store other h
      rw [hmode, hmode, h.reach_eq (hpath rfl)]
      exact ⟨rfl, h⟩
  | false =>
      intro store other h
      rw [hmode]
      exact h

/-! ### Streams -/

theorem Same.put (h : F.Same store other) (id : StreamId) (q : Queue) :
    F.Same ((MemoryBus.queue id).put q store) ((MemoryBus.queue id).put q other) := by
  refine { h with length_queues := ?_, queues := fun seen hseen => ?_ }
  · rw [MemoryBus.length_queues_put, MemoryBus.length_queues_put, h.length_queues]
  · show (store.queues.set id q)[seen]? = (other.queues.set id q)[seen]?
    rw [List.getElem?_set, List.getElem?_set, h.length_queues, h.queues seen hseen]

theorem isSeen_queue {id : StreamId} (hid : F.streams id) : (MemoryBus.queue id).IsSeen F.Same := by
  refine ⟨fun store other h => ?_, fun q store other h => h.put id q⟩
  show store.queues[id]?.getD {} = other.queues[id]?.getD {}
  rw [h.queues id hid]

theorem isHidden_queue {id : StreamId} (hid : ¬ F.streams id) :
    (MemoryBus.queue id).IsHidden F.Same := by
  intro q store other h
  refine { h with length_queues := ?_, queues := fun seen hseen => ?_ }
  · rw [MemoryBus.length_queues_put, h.length_queues]
  · have hne : id ≠ seen := fun heq => hid (heq ▸ hseen)
    show (store.queues.set id q)[seen]? = other.queues[seen]?
    rw [List.getElem?_set_ne hne, h.queues seen hseen]

theorem isPlaced_queue {id : StreamId} (hid : F.streams id ↔ visible = true) :
    (MemoryBus.queue id).IsPlaced visible F.Same := by
  cases visible with
  | true => exact isSeen_queue (hid.mpr rfl)
  | false => exact isHidden_queue fun hseen => absurd (hid.mp hseen) (by decide)

/-- What is in a stream that is not seen may differ, and whoever changes it by what is in it stays out
of sight. -/
theorem Same.change (h : F.Same store other) (id : StreamId) (f : Queue → Queue) :
    F.Same ((MemoryBus.queue id).put (f ((MemoryBus.queue id).view store)) store)
      ((MemoryBus.queue id).put (f ((MemoryBus.queue id).view other)) other) := by
  by_cases hid : F.streams id
  · rw [(isSeen_queue hid).view store other h]
    exact h.put id _
  · exact isHidden_queue hid _ _ _ (isHidden_queue hid _ _ _ h.symm).symm

def SeesStreams (F : Scope) (pair : StreamPair) : Prop := F.streams pair.data ∧ F.streams pair.control

def MissesStreams (F : Scope) (pair : StreamPair) : Prop :=
  ¬ F.streams pair.data ∧ ¬ F.streams pair.control

theorem Same.push (h : F.Same store other) (channel : String) (raw : RawBlock) :
    F.Same (store.push channel raw) (other.push channel raw) := by
  rw [MemoryBus.push, MemoryBus.push, h.register]
  cases other.streams.find? channel with
  | none => exact h
  | some pair => exact (h.change pair.control (·.push raw.control)).change pair.data (·.push raw.data)

theorem Same.push_of_misses (h : F.Same store other) {channel : String}
    (hmisses : ∀ pair, store.streams.find? channel = some pair → F.MissesStreams pair)
    (raw : RawBlock) : F.Same (store.push channel raw) other := by
  rw [MemoryBus.push]
  cases hpair : store.streams.find? channel with
  | none => exact h
  | some pair =>
      obtain ⟨hdata, hcontrol⟩ := hmisses pair hpair
      exact isHidden_queue hdata _ _ _ (isHidden_queue hcontrol _ _ _ h)

theorem Same.drain (h : F.Same store other) (channel : String) :
    F.Same (store.drain channel).2 (other.drain channel).2 := by
  rw [MemoryBus.drain, MemoryBus.drain, h.register]
  cases other.streams.find? channel with
  | none => exact h
  | some pair => exact (h.put pair.control {}).put pair.data {}

theorem Same.drain_of_misses (h : F.Same store other) {channel : String}
    (hmisses : ∀ pair, store.streams.find? channel = some pair → F.MissesStreams pair) :
    F.Same (store.drain channel).2 other := by
  rw [MemoryBus.drain]
  cases hpair : store.streams.find? channel with
  | none => exact h
  | some pair =>
      obtain ⟨hdata, hcontrol⟩ := hmisses pair hpair
      exact isHidden_queue hdata _ _ _ (isHidden_queue hcontrol _ _ _ h)

theorem Same.fst_drain (h : F.Same store other) {channel : String}
    (hsees : ∀ pair, store.streams.find? channel = some pair → F.SeesStreams pair) :
    (store.drain channel).1 = (other.drain channel).1 := by
  rw [MemoryBus.drain, MemoryBus.drain, ← h.register]
  cases hpair : store.streams.find? channel with
  | none => rfl
  | some pair =>
      obtain ⟨hdata, hcontrol⟩ := hsees pair hpair
      dsimp only
      rw [(isSeen_queue hdata).view store other h, (isSeen_queue hcontrol).view store other h]

/-! ### Changes from outside -/

theorem Same.setFile (h : F.Same store other) (path : String) (content : Bytes) :
    F.Same (store.setFile path content) (other.setFile path content) := by
  refine { h with files := fun seen hseen => ?_ }
  simp only [MemoryBus.setFile, Table.find?_insert, h.files seen hseen]
  by_cases hpath : seen = path
  · rw [if_pos hpath, if_pos hpath, ← hpath, h.files seen hseen]
  · rw [if_neg hpath, if_neg hpath]

theorem find?_setMode (store : MemoryBus) (path other : String) (mode : UInt32) :
    (store.setMode path mode).files.find? other =
      if other = path then (store.files.find? other).map ({ · with mode })
      else store.files.find? other := by
  rw [MemoryBus.setMode]
  cases hfile : store.files.find? path with
  | none =>
      dsimp only
      split
      next hpath => rw [hpath, hfile, Option.map_none]
      next => rfl
  | some file =>
      dsimp only
      rw [Table.find?_insert]
      split
      next hpath => rw [hpath, hfile, Option.map_some]
      next => rfl

theorem Same.setMode (h : F.Same store other) (path : String) (mode : UInt32) :
    F.Same (store.setMode path mode) (other.setMode path mode) := by
  have hfiles (store : MemoryBus) :
      store.setMode path mode = { store with files := (store.setMode path mode).files } := by
    rw [MemoryBus.setMode]
    cases store.files.find? path <;> rfl
  rw [hfiles store, hfiles other]
  refine { h with files := fun seen hseen => ?_ }
  show (store.setMode path mode).files.find? seen = (other.setMode path mode).files.find? seen
  rw [find?_setMode, find?_setMode, h.files seen hseen]

theorem Same.addStreams (h : F.Same store other) (channel : String) :
    F.Same (store.addStreams channel) (other.addStreams channel) := by
  refine { h with register := ?_, length_queues := ?_, queues := fun seen hseen => ?_ }
  · simp only [MemoryBus.addStreams, h.register, h.length_queues]
  · simp only [MemoryBus.addStreams, List.length_append, h.length_queues]
  · simp only [MemoryBus.addStreams, List.getElem?_append, h.length_queues, h.queues seen hseen]

theorem Same.addDevice (h : F.Same store other) (device : Blueprint) :
    F.Same (store.addDevice device) (other.addDevice device) := by
  have hfiles := List.foldl_rel (l := device.files) (r := F.Same) h fun file _ _ _ h =>
    h.setFile file.1 file.2
  have hstreams := List.foldl_rel (l := device.channelNames) (r := F.Same) hfiles fun channel _ _ _ h =>
    h.addStreams channel
  exact { hstreams with devices := congrArg (·.insert device.key device) hstreams.devices }

theorem Same.apply (h : F.Same store other) (change : MemoryBus.Change) :
    F.Same (change.apply store) (change.apply other) := by
  cases change with
  | addDevice device => exact h.addDevice device
  | setFile path content => exact h.setFile path content
  | setMode path mode => exact h.setMode path mode
  | failPath path code => exact { h with failures := congrArg (·.insert path code) h.failures }
  | clearFailure path => exact { h with failures := congrArg (·.erase path) h.failures }
  | failOpen code => exact { h with openFailure := rfl }
  | setModules kind names => exact { h with }
  | push channel block => exact h.push channel block
  | drain channel => exact h.drain channel

end Scope

end DaqBus

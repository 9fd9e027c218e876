import DaqBus.Proofs.Alike
import DaqBus.Proofs.Tree.Mirror
import DaqBus.Proofs.World.Wired
import Mathlib.Data.List.Induction

/-!
# What a store in memory lists and opens

Only registrations change what is registered, and every registration makes the streams of all channels.
So whatever a store has been told and asked, each key that was ever registered is listed once, in order,
and opens.
-/

namespace DaqBus

open Memory

namespace Table

variable {α β : Type} [DecidableEq α]

theorem mem_keys_iff {t : Table α β} {key : α} : key ∈ t.keys ↔ (t.find? key).isSome := by
  rw [keys, find?, List.lookup_isSome_iff]
  simp

theorem keys_insert (t : Table α β) (key : α) (value : β) :
    (t.insert key value).keys = key :: (t.keys.filter (· ≠ key)) := by
  simp [keys, insert, erase, List.filter_map, Function.comp_def]

theorem nodup_keys_insert {t : Table α β} (h : t.keys.Nodup) (key : α) (value : β) :
    (t.insert key value).keys.Nodup := by
  rw [keys_insert, List.nodup_cons]
  exact ⟨by simp, h.filter _⟩

end Table

namespace MemoryBus

/-- An operation of a store, as it is called from outside. -/
inductive Call
  | changes (change : Change)
  | opensName (name : String)
  | opensId (name : String) (id : UInt32)
  | releases (base : String)
  | reads (path : String) (limit : Nat)
  | writes (path : String) (content : Bytes)
  | asksMode (path : String)
  | lists (kind : ModuleKind)
  | readsBlock (streams : ChannelStreams)
  | writesBlock (streams : ChannelStreams) (block : RawBlock)

namespace Call

/-- The bus after a call, whatever the call answered. -/
def run (bus : Bus MemoryBus) : Call → Bus MemoryBus
  | changes change => { bus with store := change.apply bus.store }
  | opensName name => (Backend.openByName name bus).2
  | opensId name id => (Backend.openById name id bus).2
  | releases base => Backend.release base bus
  | reads path limit => (Bus.onStore (Backend.readRaw path limit) bus).2
  | writes path content => (Bus.onStore (Backend.writeRaw path content) bus).2
  | asksMode path => (Bus.onStore (Backend.mode path) bus).2
  | lists kind => (Bus.onStore (Backend.modules kind) bus).2
  | readsBlock streams => (Bus.onStore (Backend.readBlock streams) bus).2
  | writesBlock streams block => (Bus.onStore (Backend.writeBlock streams block) bus).2

/-- The blueprint that a call registers. -/
def registered? : Call → Option Blueprint
  | changes (.addDevice device) => some device
  | _ => none

end Call

variable {store other : MemoryBus} {devices : List Blueprint} {device : Blueprint} {key : String}

/-! ### What only a registration changes -/

theorem isPlaced_queue (id : StreamId) : (queue id).IsPlaced false SameRegister := by
  intro q store other h
  exact ⟨h.devices, h.streams, (length_queues_put id q store).trans h.length_queues⟩

theorem modules_eq (kind : ModuleKind) (store : MemoryBus) :
    ∃ outcome, modules kind store = (outcome, store) := by
  unfold modules
  rw [Effect.bind_of_ok (Effect.get_apply store)]
  generalize store.moduleNames.find? kind = published
  rcases published with _ | _ | ⟨first, rest⟩ <;> cases kind <;> exact ⟨_, rfl⟩

theorem Call.sameRegister_run (bus : Bus MemoryBus) {call : Call} (hcall : call.registered? = none) :
    SameRegister (call.run bus).store bus.store := by
  have hsame := sameRegister_refl bus.store
  cases call with
  | changes change =>
      rcases change.sameRegister_apply bus.store with ⟨device, rfl⟩ | hchange
      · cases hcall
      · exact hchange
  | opensName name =>
      obtain ⟨log, hopen⟩ := openKey_eq name bus
      show SameRegister (openKey name bus).2.store bus.store
      rw [hopen]
      exact hsame
  | opensId name id =>
      obtain ⟨log, hopen⟩ := openKey_eq (instanceName name id) bus
      show SameRegister (openKey (instanceName name id) bus).2.store bus.store
      rw [hopen]
      exact hsame
  | releases base => exact ⟨rfl, rfl, rfl⟩
  | reads path limit =>
      show SameRegister (readRaw path limit bus.store).2 bus.store
      rw [readRaw_eq]
      cases bus.store.reach path <;> exact ⟨rfl, rfl, rfl⟩
  | writes path content =>
      show SameRegister (writeRaw path content bus.store).2 bus.store
      rw [writeRaw_eq]
      cases bus.store.reach path <;> exact ⟨rfl, rfl, rfl⟩
  | asksMode path =>
      show SameRegister (mode path bus.store).2 bus.store
      rw [mode_eq]
      exact hsame
  | lists kind =>
      obtain ⟨outcome, hmodules⟩ := modules_eq kind bus.store
      show SameRegister (modules kind bus.store).2 bus.store
      rw [hmodules]
      exact hsame
  | readsBlock streams =>
      have hspares : Effect.Keeps false SameRegister (Backend.readBlock streams) :=
        Lane.keeps_readBlock (isPlaced_queue _) (isPlaced_queue _)
      exact hspares _ _ hsame
  | writesBlock streams block =>
      have hspares : Effect.Keeps false SameRegister (Backend.writeBlock streams block) :=
        Lane.keeps_writeBlock (isPlaced_queue _) (isPlaced_queue _) block
      exact hspares _ _ hsame

theorem Call.registered?_eq_some_iff {call : Call} :
    call.registered? = some device ↔ call = .changes (.addDevice device) := by
  constructor
  · intro h
    unfold registered? at h
    split at h <;> cases h
    rfl
  · rintro rfl
    rfl

/-! ### What registrations make -/

/-- The store has exactly the keys of these blueprints, each of them once, and all streams of what
stands under them. -/
structure Registers (store : MemoryBus) (devices : List Blueprint) : Prop where
  mem_keys_iff : ∀ key, key ∈ store.devices.keys ↔ ∃ device ∈ devices, device.key = key
  nodup_keys : store.devices.keys.Nodup
  equipped : store.Equipped

theorem registers_empty : ({} : MemoryBus).Registers [] :=
  ⟨by simp [Table.keys], List.nodup_nil, equipped_empty⟩

theorem Registers.of_sameRegister (h : store.Registers devices) (hsame : SameRegister other store) :
    other.Registers devices := by
  refine ⟨?_, ?_, ?_⟩
  · rw [hsame.devices]
    exact h.mem_keys_iff
  · rw [hsame.devices]
    exact h.nodup_keys
  · unfold Equipped
    rw [hsame.devices, hsame.streams]
    exact h.equipped

theorem Registers.addDevice (h : store.Registers devices) (device : Blueprint) :
    (store.addDevice device).Registers (devices ++ [device]) := by
  refine ⟨?_, ?_, h.equipped.addDevice device⟩
  · intro key
    rw [devices_addDevice, Table.keys_insert]
    by_cases hkey : key = device.key
    · simp [hkey]
    · simp [hkey, Ne.symm hkey, h.mem_keys_iff]
  · rw [devices_addDevice]
    exact Table.nodup_keys_insert h.nodup_keys _ _

theorem Registers.call {bus : Bus MemoryBus} (h : bus.store.Registers devices) (call : Call) :
    (call.run bus).store.Registers (devices ++ call.registered?.toList) := by
  cases hcall : call.registered? with
  | none =>
      rw [Option.toList_none, List.append_nil]
      exact h.of_sameRegister (call.sameRegister_run bus hcall)
  | some device =>
      rw [Call.registered?_eq_some_iff.mp hcall]
      exact h.addDevice device

theorem registers_run (calls : List Call) :
    (calls.foldl Call.run { store := {} }).store.Registers (calls.filterMap Call.registered?) := by
  induction calls using List.reverseRecOn with
  | nil => exact registers_empty
  | append_singleton calls call ih =>
      have hlast : [call].filterMap Call.registered? = call.registered?.toList := by
        cases hcall : call.registered? <;> simp [hcall]
      rw [List.foldl_concat, List.filterMap_append, hlast]
      exact ih.call call

/-! ### Listing and opening -/

theorem Registers.found_iff (h : store.Registers devices) (hopen : store.openFailure = none) :
    (∃ record, store.found key = .ok record) ↔ ∃ device ∈ devices, device.key = key := by
  rw [← h.mem_keys_iff, Table.mem_keys_iff, found, hopen]
  dsimp only
  cases hfind : store.devices.find? key with
  | none => simp
  | some device =>
      have hready : device.IsReady { store } False ⟨0, device.base⟩ :=
        ⟨h.equipped key device hfind, False.elim⟩
      obtain ⟨record, hrecord, -⟩ := hready.exists_record none
      simp [hrecord]

theorem Registers.mem_deviceNames_iff (h : store.Registers devices) (name : String) :
    name ∈ store.deviceNames ↔
      isHardwareName name = false ∧ ∃ device ∈ devices, device.key = name := by
  rw [deviceNames, List.mem_mergeSort, List.mem_filter, h.mem_keys_iff, and_comm, Bool.not_eq_true']

theorem Registers.sorted_deviceNames (h : store.Registers devices) :
    store.deviceNames.Pairwise fun first second =>
      Text.Utf8.encode first < Text.Utf8.encode second :=
  Text.Utf8.pairwise_mergeSort (h.nodup_keys.filter _)

end MemoryBus

end DaqBus

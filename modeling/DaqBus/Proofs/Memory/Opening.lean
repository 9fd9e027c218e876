import DaqBus.Memory.Backend
import DaqBus.Proofs.Tree.Opening

/-!
# Opening and closing on a store in memory

Whether a device opens, and with which tree, is decided by what is registered. An opening leaves the
store as it is; a teardown adds to the released directories, and only the first one of an opening does.
-/

namespace DaqBus

open Memory

def MemoryBus.withReleased (released : List String) (store : MemoryBus) : MemoryBus :=
  { store with released }

/-- What an opening finds in the store. -/
def MemoryBus.lookup (store : MemoryBus) (name : String) (id : Option UInt32) :
    Except Errno DeviceRecord :=
  if name = "" then .error .invalidArgument
  else
    match store.openFailure with
    | some code => .error code
    | none =>
      match store.devices.find? ((id.map (instanceName name)).getD name) with
      | none => .error .noDevice
      | some blueprint =>
        match blueprint.record? store.streams.find? with
        | some record => .ok record
        | none => .error .noEntry

namespace MemoryBus

/-- What stands under a key, if openings work. -/
def found (store : MemoryBus) (key : String) : Except Errno DeviceRecord :=
  match store.openFailure with
  | some code => .error code
  | none =>
    match store.devices.find? key with
    | none => .error .noDevice
    | some device => (device.record? store.streams.find?).elim (.error .noEntry) .ok

theorem openKey_eq (key : String) (bus : Bus MemoryBus) :
    ∃ log, openKey key bus = (bus.store.found key, { bus with log }) := by
  unfold openKey found
  rw [Effect.bind_of_ok (Effect.get_apply bus)]
  cases bus.store.openFailure with
  | some code => exact ⟨bus.log, rfl⟩
  | none =>
      dsimp only
      cases bus.store.devices.find? key with
      | none => exact ⟨bus.log, rfl⟩
      | some device =>
          dsimp only
          cases device.record? bus.store.streams.find? with
          | none => exact ⟨_, rfl⟩
          | some record => exact ⟨_, rfl⟩

theorem lookup_eq_found (store : MemoryBus) (name : String) (id : Option UInt32) :
    store.lookup name id =
      if name = "" then .error .invalidArgument
      else store.found ((id.map (instanceName name)).getD name) := by
  unfold lookup found
  split
  · rfl
  cases store.openFailure with
  | some code => rfl
  | none =>
      dsimp only
      cases store.devices.find? ((id.map (instanceName name)).getD name) with
      | none => rfl
      | some blueprint => cases hrecord : blueprint.record? store.streams.find? <;> simp [hrecord]

theorem exists_blueprint_of_lookup {store : MemoryBus} {name : String} {id : Option UInt32}
    {record : DeviceRecord} (hlookup : store.lookup name id = .ok record) :
    ∃ blueprint : Blueprint,
      store.devices.find? ((id.map (instanceName name)).getD name) = some blueprint ∧
      blueprint.record? store.streams.find? = some record := by
  unfold lookup at hlookup
  split at hlookup
  · cases hlookup
  split at hlookup
  · cases hlookup
  split at hlookup
  · cases hlookup
  next blueprint hblueprint =>
    split at hlookup
    next found hrecord =>
      cases hlookup
      exact ⟨blueprint, hblueprint, hrecord⟩
    next => cases hlookup

end MemoryBus

namespace Bus

theorem findDevice_eq (name : String) (id : Option UInt32) (bus : Bus MemoryBus) :
    ∃ log, findDevice name id bus = (bus.store.lookup name id, { bus with log }) := by
  have hkey : findDevice name id bus = if name = "" then (.error .invalidArgument, bus)
      else MemoryBus.openKey ((id.map (instanceName name)).getD name) bus := by
    cases id with
    | none =>
        rw [findDevice]
        split <;> rfl
    | some id =>
        rw [findDevice]
        split <;> rfl
  rw [hkey, MemoryBus.lookup_eq_found]
  by_cases hname : name = ""
  · rw [if_pos hname, if_pos hname]
    exact ⟨bus.log, rfl⟩
  · rw [if_neg hname, if_neg hname]
    exact MemoryBus.openKey_eq _ bus

/-- **What an opening does.** -/
theorem openDevice_eq (name : String) (id : Option UInt32) (bus : Bus MemoryBus) :
    ∃ log, openDevice name id bus =
      match bus.store.lookup name id with
      | .ok record => (.ok (Device.ofRecord ⟨bus.opened, record.head.base⟩ id record),
          { bus with log, opened := bus.opened + 1 })
      | .error code => (.error (.openFailure name id code.message), { bus with log }) := by
  obtain ⟨log, hfind⟩ := findDevice_eq name id bus
  obtain ⟨more, hopen⟩ := openDevice_of_findDevice name id bus
  rw [hopen, hfind]
  cases bus.store.lookup name id with
  | error code => exact ⟨log, rfl⟩
  | ok record => exact ⟨more, rfl⟩

/-- What comes of an opening that succeeds. The store and the ended openings stay as they are. -/
theorem openDevice_eq_ok {bus after : Bus MemoryBus} {name : String} {id : Option UInt32}
    {device : Device} (hopen : openDevice name id bus = (.ok device, after)) :
    after.store = bus.store ∧ after.closed = bus.closed ∧ after.opened = bus.opened + 1 ∧
      ∃ (record : DeviceRecord) (blueprint : Blueprint),
        bus.store.devices.find? ((id.map (instanceName name)).getD name) = some blueprint ∧
        blueprint.record? bus.store.streams.find? = some record ∧
        device = Device.ofRecord ⟨bus.opened, record.head.base⟩ id record := by
  obtain ⟨log, heq⟩ := openDevice_eq name id bus
  rw [hopen] at heq
  cases hlookup : bus.store.lookup name id with
  | error code =>
      rw [hlookup] at heq
      cases heq
  | ok record =>
      rw [hlookup] at heq
      cases heq
      obtain ⟨blueprint, hfind, hrecord⟩ := MemoryBus.exists_blueprint_of_lookup hlookup
      exact ⟨rfl, rfl, rfl, record, blueprint, hfind, hrecord, rfl⟩

theorem openDevice_cases (name : String) (id : Option UInt32) (bus : Bus MemoryBus) :
    (∃ failure log, openDevice name id bus = (.error failure, { bus with log })) ∨
      ∃ record log, openDevice name id bus =
        (.ok (Device.ofRecord ⟨bus.opened, record.head.base⟩ id record),
          { bus with log, opened := bus.opened + 1 }) := by
  obtain ⟨log, hopen⟩ := openDevice_eq name id bus
  cases hlookup : bus.store.lookup name id with
  | error code =>
      rw [hlookup] at hopen
      exact .inl ⟨_, log, hopen⟩
  | ok record =>
      rw [hlookup] at hopen
      exact .inr ⟨record, log, hopen⟩

end Bus

namespace Device

variable {device : Device} {bus : Bus MemoryBus}

theorem teardown_of_closed (hclosed : bus.isClosed device.opening.number = true) :
    device.teardown bus = bus := by
  rw [teardown, if_pos hclosed]

theorem teardown_of_open (hopen : bus.isClosed device.opening.number = false) :
    ∃ log, device.teardown bus =
      { bus with
        store := bus.store.withReleased (bus.store.released ++ [device.opening.base])
        closed := device.opening.number :: bus.closed
        log } := by
  rw [teardown, if_neg (by simp [hopen])]
  exact ⟨_, rfl⟩

theorem isClosed_teardown (device : Device) (bus : Bus MemoryBus) (number : Nat) :
    (device.teardown bus).isClosed number =
      (bus.isClosed number || number == device.opening.number) := by
  by_cases hclosed : bus.isClosed device.opening.number = true
  · rw [teardown_of_closed hclosed]
    by_cases hnumber : number = device.opening.number
    · rw [hnumber, hclosed, Bool.true_or]
    · simp [hnumber]
  · obtain ⟨log, hteardown⟩ := teardown_of_open (by simpa using hclosed)
    rw [hteardown]
    simp [Bus.isClosed, Bool.or_comm, Bool.beq_eq_decide_eq]

theorem store_teardown (device : Device) (bus : Bus MemoryBus) :
    (device.teardown bus).store = bus.store.withReleased (device.teardown bus).store.released := by
  by_cases hclosed : bus.isClosed device.opening.number = true
  · rw [teardown_of_closed hclosed]
    rfl
  · obtain ⟨log, hteardown⟩ := teardown_of_open (by simpa using hclosed)
    rw [hteardown]
    rfl

theorem opened_teardown (device : Device) (bus : Bus MemoryBus) :
    (device.teardown bus).opened = bus.opened := by
  by_cases hclosed : bus.isClosed device.opening.number = true
  · rw [teardown_of_closed hclosed]
  · obtain ⟨log, hteardown⟩ := teardown_of_open (by simpa using hclosed)
    rw [hteardown]

/-- A device is torn down once. -/
theorem teardown_teardown (device : Device) (bus : Bus MemoryBus) :
    device.teardown (device.teardown bus) = device.teardown bus := by
  apply teardown_of_closed
  rw [isClosed_teardown, beq_self_eq_true, Bool.or_true]

end Device

end DaqBus

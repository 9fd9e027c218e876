import DaqBus.Proofs.Channel.Opened

/-!
# What registrations leave

A device that is registered takes the place of the one that had its key, no registration takes streams
away, and every one adds new queues behind the others. So under a key stands the last blueprint with
that key, all its channels have streams, and different names stand for different queues.
-/

namespace DaqBus

open Memory

/-- Two channels share no queue. -/
structure ChannelStreams.Apart (streams other : ChannelStreams) : Prop where
  control_ne_control : streams.control ≠ other.control
  control_ne_data : streams.control ≠ other.data
  data_ne_control : streams.data ≠ other.control
  data_ne_data : streams.data ≠ other.data

variable {streams other : ChannelStreams}

theorem ChannelStreams.Apart.symm (h : streams.Apart other) : other.Apart streams :=
  ⟨h.control_ne_control.symm, h.data_ne_control.symm, h.control_ne_data.symm, h.data_ne_data.symm⟩

theorem Memory.Blueprint.mem_channelNames_iff {blueprint : Blueprint} {name : String} :
    name ∈ blueprint.channelNames ↔ ∃ i j set, blueprint.sets[i]? = some set ∧ j < set.channels ∧
      name = blueprint.channelDeviceName i j := by
  constructor
  · intro h
    obtain ⟨⟨set, i⟩, hset, hname⟩ := List.mem_flatMap.mp h
    obtain ⟨j, hj, rfl⟩ := List.mem_map.mp hname
    exact ⟨i, j, set, List.mem_zipIdx_iff_getElem?.mp hset, List.mem_range.mp hj, rfl⟩
  · rintro ⟨i, j, set, hset, hj, rfl⟩
    refine List.mem_flatMap.mpr ⟨(set, i), List.mem_zipIdx_iff_getElem?.mpr hset, ?_⟩
    exact List.mem_map.mpr ⟨j, List.mem_range.mpr hj, rfl⟩

namespace MemoryBus

variable {bus : MemoryBus}

/-! ### Devices -/

/-- Making files changes nothing else. -/
theorem foldl_setFile_eq (files : List (String × Bytes)) (bus : MemoryBus) :
    ∃ after, files.foldl (fun bus file => bus.setFile file.1 file.2) bus =
      { bus with files := after } := by
  induction files generalizing bus with
  | nil => exact ⟨bus.files, rfl⟩
  | cons file files ih =>
      obtain ⟨after, hafter⟩ := ih (bus.setFile file.1 file.2)
      exact ⟨after, hafter⟩

theorem devices_addDevice (bus : MemoryBus) (device : Blueprint) :
    (bus.addDevice device).devices = bus.devices.insert device.key device := by
  obtain ⟨after, hfiles⟩ := foldl_setFile_eq device.files bus
  have hstreams : (device.channelNames.foldl addStreams { bus with files := after }).devices =
      bus.devices :=
    List.foldlRecOn (motive := fun later : MemoryBus => later.devices = bus.devices)
      device.channelNames _ rfl fun _ hlater _ _ => hlater
  rw [addDevice, hfiles, hstreams]

theorem find?_devices_addDevice (bus : MemoryBus) (device : Blueprint) (key : String) :
    (bus.addDevice device).devices.find? key =
      if key = device.key then some device else bus.devices.find? key := by
  rw [devices_addDevice, Table.find?_insert]

/-- The last blueprint with a key stands under the key. -/
theorem find?_devices_foldl_addDevice (devices : List Blueprint) (bus : MemoryBus) (key : String) :
    (devices.foldl addDevice bus).devices.find? key =
      (devices.reverse.find? (·.key = key)).or (bus.devices.find? key) := by
  induction devices generalizing bus with
  | nil => rfl
  | cons device devices ih =>
      rw [List.foldl_cons, ih, find?_devices_addDevice, List.reverse_cons, List.find?_append,
        Option.or_assoc]
      congr 1
      by_cases hkey : device.key = key
      · simp [hkey]
      · simp [hkey, Ne.symm hkey]

/-! ### Streams -/

theorem isSome_find?_addStreams (bus : MemoryBus) (channel name : String) :
    ((bus.addStreams channel).streams.find? name).isSome =
      (decide (name = channel) || (bus.streams.find? name).isSome) := by
  rw [addStreams, Table.find?_insert]
  by_cases hname : name = channel <;> simp [hname]

theorem isSome_find?_foldl_addStreams (names : List String) (bus : MemoryBus) (name : String) :
    ((names.foldl addStreams bus).streams.find? name).isSome =
      (decide (name ∈ names) || (bus.streams.find? name).isSome) := by
  induction names generalizing bus with
  | nil => simp
  | cons channel names ih =>
      rw [List.foldl_cons, ih, isSome_find?_addStreams]
      by_cases hname : name = channel <;> simp [hname]

theorem isSome_find?_addDevice (bus : MemoryBus) (device : Blueprint) (name : String) :
    ((bus.addDevice device).streams.find? name).isSome =
      (decide (name ∈ device.channelNames) || (bus.streams.find? name).isSome) := by
  obtain ⟨after, hfiles⟩ := foldl_setFile_eq device.files bus
  show ((device.channelNames.foldl addStreams _).streams.find? name).isSome = _
  rw [hfiles]
  exact isSome_find?_foldl_addStreams device.channelNames { bus with files := after } name

/-- Every channel of a registered blueprint has streams. -/
def Equipped (bus : MemoryBus) : Prop :=
  ∀ key device, bus.devices.find? key = some device →
    ∀ name ∈ device.channelNames, (bus.streams.find? name).isSome

theorem equipped_empty : ({} : MemoryBus).Equipped := by
  intro key device hfind
  cases hfind

theorem Equipped.addDevice (h : bus.Equipped) (device : Blueprint) :
    (bus.addDevice device).Equipped := by
  intro key found hfind name hname
  rw [find?_devices_addDevice] at hfind
  rw [isSome_find?_addDevice]
  by_cases hkey : key = device.key
  · rw [if_pos hkey] at hfind
    obtain rfl := Option.some.inj hfind
    simp [hname]
  · rw [if_neg hkey] at hfind
    simp [h key found hfind name hname]

/-! ### Queues of their own -/

theorem waiting_setWaiting_of_apart (h : streams.Apart other) (raw : RawBlock) :
    (bus.setWaiting streams raw).waiting other = bus.waiting other := by
  have hview {id : StreamId} (hcontrol : streams.control ≠ id) (hdata : streams.data ≠ id) :
      (queue id).view (bus.setWaiting streams raw) = (queue id).view bus := by
    rw [setWaiting, view_put_ne hdata, view_put_ne hcontrol]
  rw [waiting, waiting, hview h.control_ne_control h.data_ne_control,
    hview h.control_ne_data h.data_ne_data]

/-- Different names stand for different queues. -/
def Separate (bus : MemoryBus) : Prop :=
  ∀ (name name' : String) (streams other : ChannelStreams), name ≠ name' →
    bus.streams.find? name = some ⟨streams.data, streams.control⟩ →
    bus.streams.find? name' = some ⟨other.data, other.control⟩ → streams.Apart other

theorem separate_empty : ({} : MemoryBus).Separate := by
  intro name name' streams other _ hfind
  cases hfind

/-- Two queues behind all queues of the store are apart from those of every channel. -/
theorem HasQueues.apart_of_le (h : bus.HasQueues streams) (hdata : bus.queues.length ≤ other.data)
    (hcontrol : bus.queues.length ≤ other.control) : streams.Apart other where
  control_ne_control := Nat.ne_of_lt (Nat.lt_of_lt_of_le h.control_lt hcontrol)
  control_ne_data := Nat.ne_of_lt (Nat.lt_of_lt_of_le h.control_lt hdata)
  data_ne_control := Nat.ne_of_lt (Nat.lt_of_lt_of_le h.data_lt hcontrol)
  data_ne_data := Nat.ne_of_lt (Nat.lt_of_lt_of_le h.data_lt hdata)

theorem Separate.addStreams (h : bus.Separate) (hsound : bus.Sound) (channel : String) :
    (bus.addStreams channel).Separate := by
  have hnew {streams : ChannelStreams}
      (hfind : (bus.addStreams channel).streams.find? channel =
        some ⟨streams.data, streams.control⟩) :
      bus.queues.length ≤ streams.data ∧ bus.queues.length ≤ streams.control := by
    rw [MemoryBus.addStreams, Table.find?_insert, if_pos rfl] at hfind
    obtain ⟨hdata, hcontrol⟩ := StreamPair.mk.inj (Option.some.inj hfind)
    exact ⟨Nat.le_of_eq hdata, hcontrol ▸ Nat.le_succ _⟩
  have hold {name : String} (hname : name ≠ channel) :
      (bus.addStreams channel).streams.find? name = bus.streams.find? name := by
    rw [MemoryBus.addStreams, Table.find?_insert, if_neg hname]
  intro name name' streams other hne hfind hfind'
  by_cases hname : name = channel
  · subst hname
    obtain ⟨hdata, hcontrol⟩ := hnew hfind
    rw [hold hne.symm] at hfind'
    exact ((hsound _ _ hfind').apart_of_le hdata hcontrol).symm
  · rw [hold hname] at hfind
    by_cases hname' : name' = channel
    · subst hname'
      obtain ⟨hdata, hcontrol⟩ := hnew hfind'
      exact (hsound _ _ hfind).apart_of_le hdata hcontrol
    · rw [hold hname'] at hfind'
      exact h name name' streams other hne hfind hfind'

theorem Separate.addDevice (h : bus.Separate) (hsound : bus.Sound) (device : Blueprint) :
    (bus.addDevice device).Separate := by
  have hboth : (bus.addDevice device).Sound ∧ (bus.addDevice device).Separate :=
    addDevice_induction (motive := fun bus => bus.Sound ∧ bus.Separate) ⟨hsound, h⟩ device
      (fun _ _ _ h => ⟨h.1.of_streams rfl (Nat.le_refl _), h.2⟩)
      (fun _ channel h => ⟨h.1.addStreams channel, h.2.addStreams h.1 channel⟩)
      (fun _ _ h => ⟨h.1.of_streams rfl (Nat.le_refl _), h.2⟩)
  exact hboth.2

/-! ### Failures -/

/-- No failure is set up, neither for openings nor for a path. -/
def Willing (bus : MemoryBus) : Prop := bus.openFailure = none ∧ bus.failures = {}

theorem Willing.addDevice (h : bus.Willing) (device : Blueprint) : (bus.addDevice device).Willing :=
  addDevice_induction h device (fun _ _ _ h => h) (fun _ _ h => h) (fun _ _ h => h)

/-! ### Stores with nothing but registrations -/

/-- What holds of a store that has only had devices registered. -/
structure Pristine (bus : MemoryBus) : Prop where
  sound : bus.Sound
  quiet : bus.Quiet
  separate : bus.Separate
  equipped : bus.Equipped
  willing : bus.Willing

theorem pristine_foldl_addDevice (devices : List Blueprint) :
    (devices.foldl addDevice {}).Pristine := by
  refine List.foldlRecOn devices addDevice ?_ ?_
  · exact ⟨sound_empty, quiet_empty, separate_empty, equipped_empty, rfl, rfl⟩
  · intro bus h device _
    exact ⟨h.sound.addDevice device, h.quiet.addDevice device,
      h.separate.addDevice h.sound device, h.equipped.addDevice device, h.willing.addDevice device⟩

end MemoryBus

end DaqBus

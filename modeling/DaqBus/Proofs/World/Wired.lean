import DaqBus.Proofs.Channel.Index
import DaqBus.Proofs.World.Basic

/-!
# The queues of granted devices

A store never takes queues away and gives every registration new ones. So whatever a program and its
surroundings have done, the channels of every device that was ever granted have queues, and no two of
them share one.
-/

namespace DaqBus

open Memory

namespace MemoryBus

/-- Registered channels have queues, and different ones have different queues. -/
structure Wired (store : MemoryBus) : Prop where
  sound : store.Sound
  separate : store.Separate

theorem wired_empty : ({} : MemoryBus).Wired :=
  ⟨sound_empty, separate_empty⟩

variable {store other : MemoryBus}

theorem Wired.of_streams (h : store.Wired) (hstreams : other.streams = store.streams)
    (hlength : store.queues.length ≤ other.queues.length) : other.Wired := by
  refine ⟨h.sound.of_streams hstreams hlength, ?_⟩
  intro name name' streams streams' hne hfind hfind'
  rw [hstreams] at hfind hfind'
  exact h.separate name name' streams streams' hne hfind hfind'

theorem length_queues_addDevice_le (store : MemoryBus) (device : Blueprint) :
    store.queues.length ≤ (store.addDevice device).queues.length := by
  refine addDevice_induction (motive := fun later => store.queues.length ≤ later.queues.length)
    (Nat.le_refl _) device (fun _ _ _ h => h) (fun later channel h => ?_) (fun _ _ h => h)
  have hlength : (later.addStreams channel).queues.length = later.queues.length + 2 :=
    List.length_append
  exact Nat.le_trans h (hlength ▸ Nat.le_add_right _ 2)

/-! ### What only a registration changes -/

structure SameRegister (store other : MemoryBus) : Prop where
  devices : store.devices = other.devices
  streams : store.streams = other.streams
  length_queues : store.queues.length = other.queues.length

theorem sameRegister_refl (store : MemoryBus) : SameRegister store store := ⟨rfl, rfl, rfl⟩

theorem Change.sameRegister_apply (store : MemoryBus) (change : Change) :
    (∃ device, change = .addDevice device) ∨ SameRegister (change.apply store) store := by
  cases change with
  | addDevice device => exact .inl ⟨device, rfl⟩
  | setMode path mode =>
      right
      simp only [apply, MemoryBus.setMode]
      cases store.files.find? path <;> exact ⟨rfl, rfl, rfl⟩
  | push channel block =>
      right
      simp only [apply, MemoryBus.push]
      cases store.streams.find? channel with
      | none => exact ⟨rfl, rfl, rfl⟩
      | some pair => exact ⟨rfl, rfl, (length_queues_put _ _ _).trans (length_queues_put _ _ _)⟩
  | drain channel =>
      right
      simp only [apply, MemoryBus.drain]
      cases store.streams.find? channel with
      | none => exact ⟨rfl, rfl, rfl⟩
      | some pair => exact ⟨rfl, rfl, (length_queues_put _ _ _).trans (length_queues_put _ _ _)⟩
  | setFile | failPath | clearFailure | failOpen | setModules => exact .inr ⟨rfl, rfl, rfl⟩

theorem Wired.apply (h : store.Wired) (change : Change) : (change.apply store).Wired := by
  rcases change.sameRegister_apply store with ⟨device, rfl⟩ | ⟨-, hstreams, hlength⟩
  · exact ⟨h.sound.addDevice device, h.separate.addDevice h.sound device⟩
  · exact h.of_streams hstreams (Nat.le_of_eq hlength.symm)

theorem Change.length_queues_apply_le (store : MemoryBus) (change : Change) :
    store.queues.length ≤ (change.apply store).queues.length := by
  rcases change.sameRegister_apply store with ⟨device, rfl⟩ | ⟨-, -, hlength⟩
  · exact length_queues_addDevice_le store device
  · exact Nat.le_of_eq hlength.symm

end MemoryBus

theorem Access.streams_run (access : Access) (bus : Bus MemoryBus) :
    (access.run bus).2.store.streams = bus.store.streams ∧
      (access.run bus).2.store.queues = bus.store.queues := by
  cases hserved : access.served? bus with
  | none =>
      obtain ⟨failure, hrun⟩ := run_of_unserved hserved
      rw [hrun]
      exact ⟨rfl, rfl⟩
  | some file =>
      rw [run_of_served hserved]
      show (access.effect file bus.store).streams = _ ∧ (access.effect file bus.store).queues = _
      unfold effect
      cases access.written? with
      | some content => exact ⟨rfl, rfl⟩
      | none =>
          dsimp only
          split <;> exact ⟨rfl, rfl⟩

namespace World

/-- The register is in order, and so are the channels of all granted devices. -/
structure Wired (w : World) : Prop where
  store : w.bus.store.Wired
  hasQueues : ∀ device ∈ w.granted, ∀ {index channel}, device.channel? index = some channel →
    w.bus.store.HasQueues channel.streams
  hasOwnStreams : ∀ device ∈ w.granted, device.HasOwnStreams
  opening_eq : ∀ device ∈ w.granted, ∀ {index channel}, device.channel? index = some channel →
    channel.opening = device.opening

variable {w next : World} {device : Device}

theorem wired_start {store : MemoryBus} (h : store.Wired) : (start store).Wired :=
  ⟨h, nofun, nofun, nofun⟩

theorem Wired.keeps (h : w.Wired) (hstore : next.bus.store.Wired)
    (hlength : w.bus.store.queues.length ≤ next.bus.store.queues.length)
    (hgranted : next.granted = w.granted) : next.Wired := by
  refine ⟨hstore, ?_, hgranted ▸ h.hasOwnStreams, hgranted ▸ h.opening_eq⟩
  rw [hgranted]
  intro device hdevice index channel hchannel
  exact (h.hasQueues device hdevice hchannel).of_length_le hlength

theorem Wired.keeps_of_streams (h : w.Wired) (hstreams : next.bus.store.streams = w.bus.store.streams)
    (hqueues : next.bus.store.queues = w.bus.store.queues) (hgranted : next.granted = w.granted) :
    next.Wired := by
  have hlength : w.bus.store.queues.length ≤ next.bus.store.queues.length :=
    Nat.le_of_eq (congrArg List.length hqueues).symm
  exact h.keeps (h.store.of_streams hstreams hlength) hlength hgranted

theorem Wired.teardown (h : w.Wired) (device : Device) (hbus : next.bus = device.teardown w.bus)
    (hgranted : next.granted = w.granted) : next.Wired := by
  refine h.keeps_of_streams ?_ ?_ hgranted <;> rw [hbus, device.store_teardown] <;> rfl

theorem Wired.grants {name : String} {id : Option UInt32} {bus after : Bus MemoryBus} (h : w.Wired)
    (hbus : bus.store = w.bus.store) (hopen : Bus.openDevice name id bus = (.ok device, after))
    (hnext : next.bus = after) (hgranted : next.granted = w.granted ++ [device]) : next.Wired := by
  -- The store is as it was, so only the new device is in question.
  obtain ⟨hsame, -, -, record, blueprint, -, -, hdevice⟩ := Bus.openDevice_eq_ok hopen
  have hstore : next.bus.store = bus.store := by rw [hnext, hsame]
  have hwired : bus.store.Wired := hbus ▸ h.store
  have hbefore := h.hasQueues
  rw [← hbus] at hbefore
  refine ⟨hstore ▸ hwired, ?_, ?_, ?_⟩ <;>
    rw [hgranted] <;> refine List.forall_mem_append.mpr ⟨?_, List.forall_mem_singleton.mpr ?_⟩
  · exact hstore ▸ hbefore
  · rw [hstore]
    exact fun hchannel => Bus.hasQueues_of_openDevice hwired.sound hopen hchannel
  · exact h.hasOwnStreams
  · exact Bus.hasOwnStreams_of_openDevice hwired.separate hopen
  · exact h.opening_eq
  · rw [hdevice]
    exact Device.opening_of_channel?

theorem Wired.refuses {name : String} {id : Option UInt32} {bus after : Bus MemoryBus}
    {failure : BusError} (h : w.Wired) (hbus : bus.store = w.bus.store)
    (hopen : Bus.openDevice name id bus = (.error failure, after)) (hnext : next.bus = after)
    (hgranted : next.granted = w.granted) : next.Wired := by
  have hstore : next.bus.store = w.bus.store := by
    rcases Bus.openDevice_cases name id bus with ⟨_, _, heq⟩ | ⟨_, _, heq⟩
    · cases hopen.symm.trans heq
      rw [hnext, ← hbus]
    · cases hopen.symm.trans heq
  exact h.keeps_of_streams (congrArg _ hstore) (congrArg _ hstore) hgranted

theorem Wired.step (h : w.Wired) (deed : Deed) : (w.step deed).Wired := by
  cases deed with
  | opens name id =>
      rw [World.step]
      rcases hopen : Bus.openDevice name id w.bus with ⟨failure | device, after⟩
      · exact h.refuses rfl hopen rfl rfl
      · exact h.grants rfl hopen rfl rfl
  | enters name id =>
      rw [World.step]
      have hentered : (w.bus.record (.scopeEntered name id)).store = w.bus.store := rfl
      rcases hopen : Bus.openDevice name id (w.bus.record (.scopeEntered name id)) with
        ⟨failure | device, after⟩
      · exact h.refuses hentered hopen rfl rfl
      · exact h.grants hentered hopen rfl rfl
  | closes device =>
      rw [World.step]
      split
      · exact h.teardown device (closing_eq device w.bus) rfl
      · exact h
  | drops device =>
      rw [World.step]
      split
      · exact h.teardown device rfl rfl
      · exact h
  | leaves =>
      rw [World.step]
      split
      · exact h
      next device _ _ => exact h.teardown device (closing_eq device w.bus) rfl
  | uses access =>
      obtain ⟨hstreams, hqueues⟩ := access.streams_run w.bus
      exact h.keeps_of_streams hstreams hqueues rfl
  | changes change =>
      exact h.keeps (h.store.apply change) (change.length_queues_apply_le w.bus.store) rfl

theorem wired_run (deeds : List Deed) : ((start {}).run deeds).Wired :=
  run_induction (wired_start MemoryBus.wired_empty) (fun _ deed h => h.step deed) deeds

end World

end DaqBus

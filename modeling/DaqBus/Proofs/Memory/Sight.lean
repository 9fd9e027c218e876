import DaqBus.Proofs.Channel.Index
import DaqBus.Proofs.Channel.Loopback
import DaqBus.Proofs.Memory.Scope

/-!
# Devices in sight and out of sight

What can be done with a device in memory is made of single accesses to its files, its streams and its
opening. So if these are in the sight of an observer, what is done tells the same on buses that are
alike to him, and if they are not, nothing that is done can be noticed by him.
-/

namespace DaqBus

open Memory Effect

namespace Scope

variable {F : Scope} {visible : Bool} {α : Type} {b c : Bus MemoryBus} {handle : Attribute}
  {opening : Opening} {channel : Channel}

abbrev Alike (F : Scope) : Bus MemoryBus → Bus MemoryBus → Prop :=
  Bus.Alike F.Same F.openings

theorem alike_refl (bus : Bus MemoryBus) : F.Alike bus bus :=
  ⟨F.same_refl bus.store, rfl, fun _ _ => rfl⟩

theorem Alike.symm (h : F.Alike b c) : F.Alike c b :=
  ⟨h.store.symm, h.opened.symm, fun number hnumber => (h.isClosed number hnumber).symm⟩

/-! ### Handles -/

/-- The file of the handle is in sight or not; if it is, the opening is as well. -/
structure Places (F : Scope) (visible : Bool) (handle : Attribute) : Prop where
  path : F.paths handle.path ↔ visible = true
  opening : visible = true → F.openings handle.opening.number

theorem keeps_check (hopening : visible = true → F.openings opening.number) :
    Keeps visible F.Alike opening.check := by
  have hcheck (bus : Bus MemoryBus) : opening.check bus =
      (if bus.isClosed opening.number then .error (.deviceClosed opening.base) else .ok (), bus) := by
    cases hclosed : bus.isClosed opening.number with
    | true => exact Opening.check_of_closed hclosed
    | false => exact Opening.check_of_open hclosed
  cases visible with
  | true =>
      intro b c h
      rw [hcheck, hcheck, h.isClosed opening.number (hopening rfl)]
      exact ⟨rfl, h⟩
  | false =>
      intro b c h
      rw [hcheck]
      exact h

theorem keeps_access (hopening : visible = true → F.openings handle.opening.number)
    {operation : BusM MemoryBus Errno α} (h : Keeps visible F.Alike operation) :
    Keeps visible F.Alike (handle.access operation) :=
  (keeps_check hopening).bind fun _ => Bus.keeps_restate _ h

theorem keeps_backendText {path : String} (hpath : visible = true → F.paths path) :
    Keeps visible F.Same (Backend.readText path : StoreM MemoryBus String) :=
  (keeps_readRaw hpath Backend.textLimit).bind fun _ => keeps_pure visible _

theorem keeps_backendNumber {path : String} (hpath : visible = true → F.paths path) :
    Keeps visible F.Alike (Backend.readNumber path : BusM MemoryBus Errno UInt32) := by
  refine (Bus.keeps_onStore (keeps_backendText hpath)).bind fun text => ?_
  split
  · exact keeps_pure visible _
  · exact (Bus.keeps_emit _).bind fun _ => keeps_throw visible _

theorem keeps_backendHeader {path : String} (hpath : visible = true → F.paths path) :
    Keeps visible F.Same (Backend.readHeader path : StoreM MemoryBus Control.Header) := by
  refine (keeps_readRaw hpath Control.recordSize).bind fun raw => ?_
  split
  · exact keeps_pure visible _
  · exact keeps_throw visible _

theorem Places.keeps_read (h : F.Places visible handle) :
    Keeps visible F.Alike (handle.read : BusM MemoryBus BusError UInt32) :=
  (keeps_access h.opening (keeps_backendNumber h.path.mpr)).bind fun _ =>
    (Bus.keeps_emit _).bind fun _ => keeps_pure visible _

theorem Places.keeps_readText (h : F.Places visible handle) :
    Keeps visible F.Alike (handle.readText : BusM MemoryBus BusError String) :=
  keeps_access h.opening (Bus.keeps_onStore (keeps_backendText h.path.mpr))

theorem Places.keeps_put (h : F.Places visible handle) (content : Bytes) (event : Event) :
    Keeps visible F.Alike (do
      handle.access (Bus.onStore (Backend.writeRaw handle.path content))
      Bus.emit event : BusM MemoryBus BusError Unit) :=
  (keeps_access h.opening (Bus.keeps_onStore (keeps_writeRaw h.path content))).bind fun _ =>
    Bus.keeps_emit event

theorem keeps_run {access : Access} (h : F.Places visible access.handle) :
    Keeps visible F.Alike (access.run : BusM MemoryBus BusError Answer) := by
  cases access with
  | read handle => exact (Places.keeps_read h).map _
  | readText handle => exact (Places.keeps_readText h).map _
  | write handle value => exact (Places.keeps_put h _ _).map _
  | writeText handle text => exact (Places.keeps_put h _ _).map _
  | enable node => exact (Places.keeps_put h _ _).map _
  | disable node => exact (Places.keeps_put h _ _).map _
  | isEnabled node =>
      exact ((Places.keeps_read h).bind fun _ => keeps_pure visible _).map _
  | permissions handle =>
      refine Keeps.map ?_ _
      exact (keeps_access h.opening (Bus.keeps_onStore (keeps_mode h.path.mpr))).bind fun _ =>
        keeps_pure visible _

/-! ### Registers of a channel -/

theorem keeps_readControl (h : F.Places visible channel.currentControl) :
    Keeps visible F.Alike (channel.readControl : BusM MemoryBus BusError Control.Header) :=
  keeps_access h.opening (Bus.keeps_onStore (keeps_backendHeader h.path.mpr))

theorem keeps_alarms (h : F.Places visible channel.alarmRegister) :
    Keeps visible F.Alike (channel.alarms : BusM MemoryBus BusError ChannelAlarms) := by
  refine h.keeps_readText.bind fun text => ?_
  split
  · exact keeps_pure visible _
  · exact keeps_throw visible _

theorem keeps_flush (h : F.Places visible channel.buffer.flushSwitch) :
    Keeps visible F.Alike (channel.buffer.flush : BusM MemoryBus BusError Unit) :=
  (h.keeps_put _ _).bind fun _ => Bus.keeps_emit _

theorem keeps_flushEach {channels : List Channel}
    (h : ∀ channel ∈ channels, F.Places visible channel.buffer.flushSwitch)
    (last : Option BusError) :
    Keeps visible F.Alike
      (ChannelSet.flushEach channels last : BusM MemoryBus BusError (Option BusError)) := by
  induction channels generalizing last with
  | nil => exact keeps_pure visible last
  | cons channel channels ih =>
      have hrest := ih fun channel hchannel => h channel (List.mem_cons_of_mem _ hchannel)
      refine (Bus.keeps_attempt (keeps_flush (h channel List.mem_cons_self))).bind fun outcome => ?_
      cases outcome with
      | ok _ => exact hrest last
      | error failure => exact (Bus.keeps_emit _).bind fun _ => hrest (some failure)

theorem keeps_flushAll {set : ChannelSet}
    (h : ∀ channel ∈ set.channels, F.Places visible channel.buffer.flushSwitch) :
    Keeps visible F.Alike (set.flushAll : BusM MemoryBus BusError Unit) := by
  refine (keeps_flushEach h none).bind fun outcome => ?_
  cases outcome with
  | none => exact keeps_pure visible _
  | some failure => exact keeps_throw visible failure

/-! ### Blocks -/

/-- The streams of the channel are in sight or not; if they are, the opening is as well. -/
structure Carries (F : Scope) (visible : Bool) (channel : Channel) : Prop where
  data : F.streams channel.streams.data ↔ visible = true
  control : F.streams channel.streams.control ↔ visible = true
  opening : visible = true → F.openings channel.opening.number

theorem Carries.keeps_readBlock (h : F.Carries visible channel) :
    Keeps visible F.Alike (channel.readBlock : BusM MemoryBus BusError Block) := by
  have htransfer : Keeps visible F.Same
      (Backend.readBlock channel.streams : StoreM MemoryBus RawBlock) :=
    Lane.keeps_readBlock (isPlaced_queue h.control) (isPlaced_queue h.data)
  refine (keeps_check h.opening).bind fun _ => ?_
  refine (Bus.keeps_restate _ (Bus.keeps_onStore htransfer)).bind fun raw => ?_
  split
  · exact keeps_throw visible _
  · exact (Bus.keeps_emit _).bind fun _ => keeps_pure visible _

theorem Carries.keeps_writeBlock (h : F.Carries visible channel) (block : Block) :
    Keeps visible F.Alike (channel.writeBlock block : BusM MemoryBus BusError Unit) := by
  have htransfer : Keeps visible F.Same
      (Backend.writeBlock channel.streams block.encode : StoreM MemoryBus Unit) :=
    Lane.keeps_writeBlock (isPlaced_queue h.control) (isPlaced_queue h.data) block.encode
  refine (keeps_check h.opening).bind fun _ => ?_
  exact (Bus.keeps_restate _ (Bus.keeps_onStore htransfer)).bind fun _ => Bus.keeps_emit _

/-! ### Openings -/

theorem Alike.openDevice (h : F.Alike b c) (name : String) (id : Option UInt32) :
    (Bus.openDevice name id b).1 = (Bus.openDevice name id c).1 ∧
      F.Alike (Bus.openDevice name id b).2 (Bus.openDevice name id c).2 := by
  have hlookup : b.store.lookup name id = c.store.lookup name id := by
    rw [MemoryBus.lookup, MemoryBus.lookup, h.store.openFailure, h.store.devices, h.store.register]
  obtain ⟨first, hfirst⟩ := Bus.openDevice_eq name id b
  obtain ⟨second, hsecond⟩ := Bus.openDevice_eq name id c
  rw [hfirst, hsecond, hlookup, h.opened]
  cases c.store.lookup name id with
  | error code => exact ⟨rfl, h.store, rfl, h.isClosed⟩
  | ok record => exact ⟨rfl, h.store, rfl, h.isClosed⟩

theorem keeps_close {device : Device} (h : F.openings device.opening.number ↔ visible = true) :
    Keeps visible F.Alike (device.close : BusM MemoryBus BusError Unit) := by
  have hstore (bus : Bus MemoryBus) {other : MemoryBus} (hsame : F.Same bus.store other) :
      F.Same (device.teardown bus).store other := by
    rw [device.store_teardown]
    exact { hsame with }
  cases visible with
  | true =>
      intro b c hbus
      refine ⟨rfl, hstore b (hstore c hbus.store.symm).symm, ?_, fun number hnumber => ?_⟩
      · exact (device.opened_teardown b).trans (hbus.opened.trans (device.opened_teardown c).symm)
      · show (device.teardown b).isClosed number = (device.teardown c).isClosed number
        rw [Device.isClosed_teardown, Device.isClosed_teardown, hbus.isClosed number hnumber]
  | false =>
      intro b c hbus
      refine ⟨hstore b hbus.store, (device.opened_teardown b).trans hbus.opened,
        fun number hnumber => ?_⟩
      have hne : number ≠ device.opening.number := by
        rintro rfl
        exact absurd (h.mp hnumber) (by decide)
      show (device.teardown b).isClosed number = c.isClosed number
      rw [Device.isClosed_teardown, beq_false_of_ne hne, Bool.or_false, hbus.isClosed number hnumber]

end Scope

end DaqBus

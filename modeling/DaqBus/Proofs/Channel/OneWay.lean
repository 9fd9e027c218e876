import DaqBus.Proofs.Channel.Interleaving
import DaqBus.Proofs.Channel.Sweep
import DaqBus.Proofs.Kernel.Handles
import DaqBus.Proofs.Stream.Watched
import DaqBus.Proofs.World.Wired

/-!
# Blocks go one way

An input channel is only read from and an output channel is only written to, whatever is asked of them.
A transfer that is refused touches neither stream, and one that fails at its record has not touched the
data stream. All of this is seen on watched streams: the calls that a transfer makes are those that the
direction of the channel allows.
-/

namespace DaqBus

open Control ByteStream Watched

variable {S σ ι : Type}

/-- The calls that are made on the streams of a channel with this direction. -/
def Direction.Allows : Direction → Call → Prop
  | .input, call => call.isRead = true
  | .output, call => call.isRead = false

/-! ### Lanes -/

namespace Lane

variable [ByteStream σ] {lane : Lane S σ} {control data : ι}

/-- The lane over watched streams with names of their own. -/
def watched (lane : Lane S σ) (control data : ι) : Lane (Watched (ι × Call) S) (Watched Call σ) where
  direction := lane.direction
  control := lane.control.watched control
  data := lane.data.watched data

omit [ByteStream σ] in
theorem direction_watched (lane : Lane S σ) (control data : ι) :
    (lane.watched control data).direction = lane.direction := rfl

/-- A call on one of the two streams that goes the way of the lane. -/
def Permits (lane : Lane S σ) (control data : ι) (call : ι × Call) : Prop :=
  (call.1 = control ∨ call.1 = data) ∧ lane.direction.Allows call.2

/-- What is wrong with a record, as far as this ends a read of a block. -/
def recordFailure? : Except Fault Bytes → Option Errno
  | .error fault => some fault.errno
  | .ok control =>
    if control.length = recordSize ∧ isSampleSize (sampleSize control) then none
    else some .controlWrong

theorem readBlock_of_output (houtput : lane.direction = .output) (state : S) :
    lane.readBlock state = (.error .wrongDirection, state) := by
  unfold readBlock
  rw [if_pos (by simp [houtput])]
  exact Effect.bind_of_error (Effect.throw_apply _ _)

theorem writeBlock_of_input (hinput : lane.direction = .input) (block : RawBlock) (state : S) :
    lane.writeBlock block state = (.error .wrongDirection, state) := by
  unfold writeBlock
  rw [if_pos (by simp [hinput])]
  exact Effect.bind_of_error (Effect.throw_apply _ _)

theorem writeBlock_of_short (houtput : lane.direction = .output) {block : RawBlock}
    (hshort : block.control.length < recordSize) (state : S) :
    lane.writeBlock block state = (.error .controlWrong, state) := by
  unfold writeBlock
  simp only [houtput, ne_eq, not_true_eq_false, if_false, hshort, if_true]
  exact Effect.bind_of_error (Effect.throw_apply _ _)

/-- A read that fails at the record has done nothing but to read it. -/
theorem readBlock_of_recordFailure (hinput : lane.direction = .input) {state : S} {code : Errno}
    (hfailure : recordFailure? (readUpTo recordSize (lane.control.view state)).1 = some code) :
    lane.readBlock state = (.error code, (lane.control.readUpTo recordSize state).2) := by
  rw [readBlock_of_input hinput, Lens.readUpTo, Lens.run_eq]
  generalize readUpTo recordSize (lane.control.view state) = found at hfailure ⊢
  obtain ⟨fault | record, stream⟩ := found
  · cases hfailure
    rfl
  · dsimp only [recordFailure?] at hfailure
    split at hfailure
    next => cases hfailure
    next hunusable =>
      cases hfailure
      exact if_neg hunusable

theorem traces_readBlock (lane : Lane S σ) (control data : ι) :
    Traces (lane.Permits control data) lane.readBlock (lane.watched control data).readBlock := by
  have hwatched := lane.direction_watched control data
  cases hdirection : lane.direction with
  | output =>
      exact traces_of_error (readBlock_of_output hdirection)
        (readBlock_of_output (hwatched.trans hdirection))
  | input =>
      have hreads (lens : Lens S σ) (name : ι) (hname : name = control ∨ name = data) (limit : Nat) :
          Traces (lane.Permits control data) (lens.readUpTo limit)
            ((lens.watched name).readUpTo limit) := by
        refine (lens.traces_readUpTo name limit).mono ?_
        rintro call ⟨rfl, hread⟩
        exact ⟨hname, by rw [hdirection]; exact hread⟩
      -- The tests between the two reads see the same record on both sides.
      unfold readBlock
      rw [hwatched, hdirection, if_neg (by decide), if_neg (by decide)]
      refine (hreads lane.control control (.inl rfl) recordSize).bind fun record => .test (.test ?_)
      exact (hreads lane.data data (.inr rfl) _).bind fun payload => traces_pure _ _

theorem traces_writeBlock (lane : Lane S σ) (control data : ι) (block : RawBlock) :
    Traces (lane.Permits control data) (lane.writeBlock block)
      ((lane.watched control data).writeBlock block) := by
  have hwatched := lane.direction_watched control data
  cases hdirection : lane.direction with
  | input =>
      exact traces_of_error (writeBlock_of_input hdirection block)
        (writeBlock_of_input (hwatched.trans hdirection) block)
  | output =>
      have hdelivers (lens : Lens S σ) (name : ι) (hname : name = control ∨ name = data) (bs : Bytes) :
          Traces (lane.Permits control data) (lens.deliver bs) ((lens.watched name).deliver bs) := by
        refine (lens.traces_deliver name bs).mono ?_
        rintro call ⟨rfl, hwrite⟩
        exact ⟨hname, by rw [hdirection]; exact hwrite⟩
      by_cases hshort : block.control.length < recordSize
      · exact traces_of_error (writeBlock_of_short hdirection hshort)
          (writeBlock_of_short (hwatched.trans hdirection) hshort)
      · have hlength := Nat.not_lt.mp hshort
        rw [writeBlock_of_output hdirection hlength,
          writeBlock_of_output (hwatched.trans hdirection) hlength]
        exact (hdelivers lane.control control (.inl rfl) _).bind fun _ =>
          hdelivers lane.data data (.inr rfl) _

/-- What the watched streams show of the transfers that fail. -/
structure Spares (lane : Lane S σ) (control data : ι) (w : Watched (ι × Call) S) : Prop where
  read_against : lane.direction = .output →
    (lane.watched control data).readBlock w = (.error .wrongDirection, w)
  write_against : lane.direction = .input → ∀ block,
    (lane.watched control data).writeBlock block w = (.error .wrongDirection, w)
  write_short : lane.direction = .output → ∀ block : RawBlock, block.control.length < recordSize →
    (lane.watched control data).writeBlock block w = (.error .controlWrong, w)
  /-- All calls are reads of the control stream, and these take the record and no byte more. -/
  read_record : lane.direction = .input → ∀ code,
    recordFailure? (readUpTo recordSize (lane.control.view w.state)).1 = some code →
      ∃ reads : List Call,
        (lane.watched control data).readBlock w =
          (.error code, ⟨(lane.readBlock w.state).2, w.calls ++ reads.map (control, ·)⟩) ∧
        (∀ call ∈ reads, call.isRead = true) ∧
        ∀ record, (readUpTo recordSize (lane.control.view w.state)).1 = .ok record →
          reads.flatMap Call.given = record

theorem spares (lane : Lane S σ) (control data : ι) (w : Watched (ι × Call) S) :
    lane.Spares control data w where
  read_against houtput := readBlock_of_output ((lane.direction_watched _ _).trans houtput) w
  write_against hinput block := writeBlock_of_input ((lane.direction_watched _ _).trans hinput) block w
  write_short houtput _ hshort :=
    writeBlock_of_short ((lane.direction_watched _ _).trans houtput) hshort w
  read_record hinput code hfailure := by
    obtain ⟨reads, hmakes, hreads, hgiven⟩ := lane.control.exists_makes_readUpTo control recordSize w
    refine ⟨reads, ?_, hreads, hgiven⟩
    -- The watched stream reads what the plain one does, so its record is wrong in the same way.
    have hview : (readUpTo recordSize ((lane.watched control data).control.view w)).1 =
        (readUpTo recordSize (lane.control.view w.state)).1 := by
      obtain ⟨made, hstream, -, -⟩ :=
        Watched.exists_makes_readUpTo recordSize ⟨lane.control.view w.state, []⟩
      exact congrArg Prod.fst hstream
    rw [← hview] at hfailure
    rw [readBlock_of_recordFailure ((lane.direction_watched _ _).trans hinput) hfailure,
      show (lane.watched control data).control.readUpTo recordSize w = _ from hmakes]
    rw [hview] at hfailure
    rw [readBlock_of_recordFailure hinput hfailure]

end Lane

/-! ### Watched backends -/

/-- The calls on the streams of a backend, each with the number of its stream. -/
abbrev StreamCall := StreamId × Call

namespace Bus

variable {κ ε α : Type}

def watched (bus : Bus S) (calls : List κ) : Bus (Watched κ S) :=
  { bus with store := ⟨bus.store, calls⟩ }

def unwatched (bus : Bus (Watched κ S)) : Bus S :=
  { bus with store := bus.store.state }

/-- Work that does not go through a stream. -/
def uncalled (operation : BusM S ε α) : BusM (Watched κ S) ε α := fun bus =>
  ((operation bus.unwatched).1, (operation bus.unwatched).2.watched bus.store.calls)

/-- The second work is the first one on a watched bus, and all the calls that it makes are good. -/
def Traces (good : κ → Prop) (plain : BusM S ε α) (watched : BusM (Watched κ S) ε α) : Prop :=
  ∀ bus, ∃ made, watched bus =
      ((plain bus.unwatched).1, (plain bus.unwatched).2.watched (bus.store.calls ++ made)) ∧
    ∀ call ∈ made, good call

section Traces

variable {δ β : Type} {good : κ → Prop} {plain : BusM S ε α} {watched : BusM (Watched κ S) ε α}

theorem traces_of_uncalled (good : κ → Prop) (h : ∀ bus, watched bus = uncalled plain bus) :
    Traces good plain watched := by
  intro bus
  refine ⟨[], ?_, nofun⟩
  rw [h, List.append_nil]
  rfl

theorem traces_check (good : κ → Prop) (opening : Opening) :
    Traces good (opening.check : BusM S BusError Unit) opening.check := by
  refine traces_of_uncalled good fun bus => ?_
  cases hclosed : bus.isClosed opening.number with
  | true =>
      have hplain : bus.unwatched.isClosed opening.number = true := hclosed
      rw [Opening.check_of_closed hclosed, uncalled, Opening.check_of_closed hplain]
      rfl
  | false =>
      have hplain : bus.unwatched.isClosed opening.number = false := hclosed
      rw [Opening.check_of_open hclosed, uncalled, Opening.check_of_open hplain]
      rfl

theorem traces_onStore {plain : StoreM S α} {watched : StoreM (Watched κ S) α}
    (h : Watched.Traces good plain watched) : Traces good (onStore plain) (onStore watched) := by
  intro bus
  obtain ⟨made, hmakes, hgood⟩ := h bus.store
  refine ⟨made, ?_, hgood⟩
  rw [onStore, show watched bus.store = _ from hmakes]
  rfl

theorem Traces.restate (h : Traces good plain watched) (f : ε → δ) :
    Traces good (restate f plain) (restate f watched) := by
  intro bus
  obtain ⟨made, hmakes, hgood⟩ := h bus
  refine ⟨made, ?_, hgood⟩
  rw [Bus.restate, hmakes]
  rfl

theorem Traces.bind {next : α → BusM S ε β} {watchedNext : α → BusM (Watched κ S) ε β}
    (h : Traces good plain watched) (hnext : ∀ a, Traces good (next a) (watchedNext a)) :
    Traces good (plain >>= next) (watched >>= watchedNext) := by
  intro bus
  obtain ⟨made, hmakes, hgood⟩ := h bus
  rw [Effect.bind_apply, Effect.bind_apply, hmakes]
  rcases plain bus.unwatched with ⟨failure | a, after⟩
  · exact ⟨made, rfl, hgood⟩
  · obtain ⟨more, hmore, hgood'⟩ := hnext a (after.watched (bus.store.calls ++ made))
    refine ⟨made ++ more, ?_, List.forall_mem_append.mpr ⟨hgood, hgood'⟩⟩
    dsimp only
    rw [hmore, ← List.append_assoc]
    rfl

end Traces

end Bus

def Watched.uncalled {κ α : Type} (operation : StoreM S α) : StoreM (Watched κ S) α := fun w =>
  ((operation w.state).1, ⟨(operation w.state).2, w.calls⟩)

variable [Backend S]

instance : Backend (Watched StreamCall S) where
  Stream := Watched Call (Backend.Stream S)
  lens id := (Backend.lens id).watched id
  openByName name := Bus.uncalled (Backend.openByName name)
  openById name id := Bus.uncalled (Backend.openById name id)
  release base bus := (Backend.release base bus.unwatched).watched bus.store.calls
  readRaw path limit := Watched.uncalled (Backend.readRaw path limit)
  writeRaw path content := Watched.uncalled (Backend.writeRaw path content)
  mode path := Watched.uncalled (Backend.mode path)
  modules kind := Watched.uncalled (Backend.modules kind)

def ChannelStreams.Permits (streams : ChannelStreams) (call : StreamCall) : Prop :=
  (call.1 = streams.control ∨ call.1 = streams.data) ∧ streams.direction.Allows call.2

theorem Backend.traces_readBlock (streams : ChannelStreams) :
    Traces streams.Permits (Backend.readBlock (S := S) streams) (Backend.readBlock streams) :=
  (Backend.lane streams).traces_readBlock streams.control streams.data

theorem Backend.traces_writeBlock (streams : ChannelStreams) (block : RawBlock) :
    Traces streams.Permits (Backend.writeBlock (S := S) streams block)
      (Backend.writeBlock streams block) :=
  (Backend.lane streams).traces_writeBlock streams.control streams.data block

/-! ### Channels -/

namespace Channel

variable {channel : Channel}

theorem traces_readBlock (channel : Channel) :
    Bus.Traces channel.streams.Permits (channel.readBlock : BusM S BusError Block)
      channel.readBlock := by
  unfold readBlock
  refine (Bus.traces_check _ _).bind fun _ => ?_
  refine ((Bus.traces_onStore (Backend.traces_readBlock _)).restate _).bind fun raw => ?_
  cases Block.decode raw with
  | error fault => exact Bus.traces_of_uncalled _ fun _ => rfl
  | ok block => exact Bus.traces_of_uncalled _ fun _ => rfl

theorem traces_writeBlock (channel : Channel) (block : Block) :
    Bus.Traces channel.streams.Permits (channel.writeBlock block : BusM S BusError Unit)
      (channel.writeBlock block) := by
  unfold writeBlock
  refine (Bus.traces_check _ _).bind fun _ => ?_
  refine ((Bus.traces_onStore (Backend.traces_writeBlock _ _)).restate _).bind fun _ => ?_
  exact Bus.traces_of_uncalled _ fun _ => rfl

theorem closed_writeBlock (channel : Channel) (block : Block) (bus : Bus S) :
    (channel.writeBlock block bus).2.closed = bus.closed := by
  unfold writeBlock
  cases hclosed : bus.isClosed channel.opening.number with
  | true => rw [Effect.bind_of_error (Opening.check_of_closed hclosed)]
  | false =>
      rw [Effect.bind_of_ok (Opening.check_of_open hclosed)]
      simp only [Effect.bind_apply, Bus.restate, Bus.onStore]
      rcases Backend.writeBlock channel.streams block.encode bus.store with ⟨code | done, store⟩ <;> rfl

/-- No stream of the channel has had a call against its way, and a transfer against it is refused
without a trace. -/
structure KeepsWay (channel : Channel) (bus : Bus (Watched StreamCall S)) : Prop where
  allows : ∀ call ∈ bus.store.calls,
    call.1 = channel.streams.control ∨ call.1 = channel.streams.data →
      channel.direction.Allows call.2
  read_refused : channel.direction = .output →
    channel.readBlock bus = (.error (channel.readRefusal .wrongDirection), bus)
  write_refused : channel.direction = .input → ∀ block,
    channel.writeBlock block bus = (.error (channel.writeRefusal .wrongDirection), bus)

end Channel

/-! ### Devices -/

/-- What can be done with the channels of a device. In between, the store may be changed from
outside. -/
inductive Transfer (S : Type)
  | read (index : ChannelIndex)
  | write (index : ChannelIndex) (block : Block)
  | changes (store : S)

namespace Device

def transfer (device : Device) (bus : Bus (Watched StreamCall S)) :
    Transfer S → Bus (Watched StreamCall S)
  | .read index =>
    match device.channel? index with
    | some channel => (channel.readBlock bus).2
    | none => bus
  | .write index block =>
    match device.channel? index with
    | some channel => (channel.writeBlock block bus).2
    | none => bus
  | .changes store => { bus with store := { bus.store with state := store } }

def transferAll (device : Device) (transfers : List (Transfer S)) (bus : Bus (Watched StreamCall S)) :
    Bus (Watched StreamCall S) :=
  transfers.foldl device.transfer bus

variable {device : Device} {bus : Bus (Watched StreamCall S)}

/-- Every call is one that some channel of the device permits, and what was over is over. -/
structure Orderly (device : Device) (closed : List Nat) (bus : Bus (Watched StreamCall S)) : Prop where
  closed_eq : bus.closed = closed
  permitted : ∀ call ∈ bus.store.calls,
    ∃ index channel, device.channel? index = some channel ∧ channel.streams.Permits call

omit [Backend S] in
theorem orderly_watched (device : Device) (bus : Bus S) :
    device.Orderly bus.closed (bus.watched []) :=
  ⟨rfl, nofun⟩

omit [Backend S] in
theorem Orderly.append {closed : List Nat} {after : Bus (Watched StreamCall S)}
    (h : device.Orderly closed bus) (hclosed : after.closed = bus.closed) {made : List StreamCall}
    (hcalls : after.store.calls = bus.store.calls ++ made) {index : ChannelIndex} {channel : Channel}
    (hchannel : device.channel? index = some channel)
    (hmade : ∀ call ∈ made, channel.streams.Permits call) : device.Orderly closed after := by
  refine ⟨hclosed.trans h.closed_eq, ?_⟩
  rw [hcalls]
  refine List.forall_mem_append.mpr ⟨h.permitted, ?_⟩
  exact fun call hcall => ⟨index, channel, hchannel, hmade call hcall⟩

theorem Orderly.transfer {closed : List Nat} (h : device.Orderly closed bus) (step : Transfer S) :
    device.Orderly closed (device.transfer bus step) := by
  cases step with
  | read index =>
      cases hchannel : device.channel? index with
      | none =>
          simp only [Device.transfer, hchannel]
          exact h
      | some channel =>
          simp only [Device.transfer, hchannel]
          obtain ⟨made, hread, hmade⟩ := channel.traces_readBlock bus
          exact h.append (channel.closed_readBlock bus) (by rw [hread]; rfl) hchannel hmade
  | write index block =>
      cases hchannel : device.channel? index with
      | none =>
          simp only [Device.transfer, hchannel]
          exact h
      | some channel =>
          simp only [Device.transfer, hchannel]
          obtain ⟨made, hwrite, hmade⟩ := channel.traces_writeBlock block bus
          exact h.append (channel.closed_writeBlock block bus) (by rw [hwrite]; rfl) hchannel hmade
  | changes store => exact ⟨h.closed_eq, h.permitted⟩

theorem Orderly.transferAll {closed : List Nat} (h : device.Orderly closed bus)
    (transfers : List (Transfer S)) : device.Orderly closed (device.transferAll transfers bus) :=
  List.foldlRecOn transfers device.transfer h fun _ hbus step _ => hbus.transfer step

/-- Whatever is transferred over channels of the device, every channel keeps its way. -/
def KeepsWays (device : Device) (bus : Bus S) : Prop :=
  ∀ index channel, device.channel? index = some channel → ∀ transfers : List (Transfer S),
    channel.KeepsWay (device.transferAll transfers (bus.watched []))

theorem keepsWays_of_hasOwnStreams (hown : device.HasOwnStreams) {before : Bus S}
    (hopen : ∀ {index channel}, device.channel? index = some channel →
      before.isClosed channel.opening.number = false) : device.KeepsWays before := by
  intro index channel hchannel transfers
  have hlast := (device.orderly_watched before).transferAll transfers
  generalize device.transferAll transfers (before.watched []) = last at hlast
  have hlive : last.isClosed channel.opening.number = false := by
    rw [Bus.isClosed, hlast.closed_eq]
    exact hopen hchannel
  refine ⟨?_, fun houtput => Channel.readBlock_of_output hlive houtput,
    fun hinput block => Channel.writeBlock_of_input hlive hinput block⟩
  intro call hcall hstream
  obtain ⟨index', other, hother, hname, hallows⟩ := hlast.permitted call hcall
  by_cases hindex : index = index'
  · subst hindex
    obtain rfl := Option.some.inj (hchannel.symm.trans hother)
    exact hallows
  · -- The call would be on a stream that two channels share.
    have hapart := hown hindex hchannel hother
    rcases hstream with hstream | hstream <;> rcases hname with hname | hname
    · exact absurd (hstream.symm.trans hname) hapart.control_ne_control
    · exact absurd (hstream.symm.trans hname) hapart.control_ne_data
    · exact absurd (hstream.symm.trans hname) hapart.data_ne_control
    · exact absurd (hstream.symm.trans hname) hapart.data_ne_data

end Device

/-- **Blocks go one way.** A transfer makes calls that the direction of its channel allows, and no
others. Against the direction, and with a record that is too short for a write, it makes none; a read
that fails at the record has read the control stream alone. So over any transfers on an open device, in
memory or of the kernel, no input is written to, no output is read from, and a transfer against the
direction is refused as such. -/
theorem transfers_go_one_way :
    (∀ {S σ ι : Type} [ByteStream σ] (lane : Lane S σ) (control data : ι),
      Traces (lane.Permits control data) lane.readBlock (lane.watched control data).readBlock ∧
      (∀ block, Traces (lane.Permits control data) (lane.writeBlock block)
        ((lane.watched control data).writeBlock block)) ∧
      ∀ w, lane.Spares control data w) ∧
    (∀ {S : Type} [Backend S] (channel : Channel),
      Bus.Traces channel.streams.Permits (channel.readBlock : BusM S BusError Block)
        channel.readBlock ∧
      ∀ block, Bus.Traces channel.streams.Permits (channel.writeBlock block : BusM S BusError Unit)
        (channel.writeBlock block)) ∧
    (∀ (deeds : List Deed) (bus : Bus MemoryBus),
      ∀ device ∈ ((World.start {}).run deeds).granted,
        bus.isClosed device.opening.number = false → device.KeepsWays bus) ∧
    ∀ (name : String) (id : Option UInt32) (before after bus : Bus KernelBus) (device : Device),
      Bus.openDevice name id before = (.ok device, after) →
        bus.isClosed device.opening.number = false → device.KeepsWays bus := by
  refine ⟨?_, ?_, ?_, ?_⟩
  · intro S σ ι _ lane control data
    exact ⟨lane.traces_readBlock control data, lane.traces_writeBlock control data,
      lane.spares control data⟩
  · intro S _ channel
    exact ⟨channel.traces_readBlock, channel.traces_writeBlock⟩
  · intro deeds bus device hdevice hopen
    have hwired := World.wired_run deeds
    refine Device.keepsWays_of_hasOwnStreams (hwired.hasOwnStreams device hdevice) fun hchannel => ?_
    rw [hwired.opening_eq device hdevice hchannel]
    exact hopen
  · intro name id before after bus device hopening hopen
    refine Device.keepsWays_of_hasOwnStreams (KernelBus.hasOwnStreams_of_openDevice hopening)
      fun hchannel => ?_
    obtain ⟨record, found, log, -, rfl, -⟩ := Bus.exists_record_of_openDevice hopening
    rw [Device.opening_of_channel? hchannel]
    exact hopen

/-! A device with an input and an output. -/

def twoWays : Memory.Blueprint where
  name := "adc"
  sets := [{ direction := .input, channels := 1 }, { direction := .output, channels := 1 }]

def twoWaysWorld : World :=
  (World.start {}).run [.changes (.addDevice twoWays), .opens "adc" none]

/-- A block is written to the output, and the input is read in vain. -/
def twoWaysTransfers : List (Transfer MemoryBus) :=
  [.write ⟨1, 0⟩ (Block.ofSamples {} (.u8 [7])), .read ⟨0, 0⟩, .read ⟨1, 0⟩]

/-- A record without a usable sample size, and one byte on the data stream. -/
def blankRecord : Watched (Bool × Call) (Queue × Queue) where
  state := (⟨List.replicate recordSize 0⟩, ⟨[1]⟩)

theorem transfers_go_one_way_twoWays :
    (∃ reads : List Call,
      ((Lane.ofPair .input).watched true false).readBlock blankRecord =
        (.error .controlWrong, ⟨(⟨[]⟩, ⟨[1]⟩), reads.map (true, ·)⟩) ∧
      reads.flatMap Call.given = List.replicate recordSize 0) ∧
    ∃ device ∈ twoWaysWorld.granted, ∃ output, device.channel? ⟨1, 0⟩ = some output ∧
      let last := device.transferAll twoWaysTransfers (twoWaysWorld.bus.watched [])
      last.store.calls.map (fun call => (call.1, call.2.isRead)) =
          [(3, false), (3, false), (2, false), (2, false), (1, true)] ∧
        output.readBlock last = (.error (output.readRefusal .wrongDirection), last) := by
  obtain ⟨hlanes, -, hmemory, -⟩ := transfers_go_one_way
  have hrecord : (readUpTo recordSize blankRecord.state.1).1 = .ok (List.replicate recordSize 0) := by
    decide +kernel
  have hfailure : Lane.recordFailure? (readUpTo recordSize blankRecord.state.1).1 =
      some .controlWrong := by decide +kernel
  have hafter : ((Lane.ofPair .input).readBlock blankRecord.state).2 = (⟨[]⟩, ⟨[1]⟩) := by
    decide +kernel
  have hdevice : twoWaysWorld.granted.map (fun device =>
      ((device.channel? ⟨1, 0⟩).map Channel.direction,
        twoWaysWorld.bus.isClosed device.opening.number,
        (device.transferAll twoWaysTransfers (twoWaysWorld.bus.watched [])).store.calls.map
          fun call => (call.1, call.2.isRead))) =
      [(some .output, false, [(3, false), (3, false), (2, false), (2, false), (1, true)])] := by
    decide +kernel
  refine ⟨?_, ?_⟩
  · obtain ⟨-, -, hspares⟩ := hlanes (Lane.ofPair (σ := Queue) .input) true false
    obtain ⟨reads, hread, -, hgiven⟩ := (hspares blankRecord).read_record rfl _ hfailure
    exact ⟨reads, hread.trans (by rw [hafter]; rfl), hgiven _ hrecord⟩
  · obtain ⟨device, hgranted, hfacts⟩ := List.map_eq_singleton_iff.mp hdevice
    rw [Prod.mk.injEq, Prod.mk.injEq, Option.map_eq_some_iff] at hfacts
    obtain ⟨⟨output, hchannel, houtput⟩, hopen, hcalls⟩ := hfacts
    have hmem : device ∈ twoWaysWorld.granted := hgranted ▸ List.mem_singleton_self device
    have hways := hmemory _ twoWaysWorld.bus device hmem hopen
    have hkeeps := hways _ output hchannel twoWaysTransfers
    exact ⟨device, hmem, output, hchannel, hcalls, hkeeps.read_refused houtput⟩

end DaqBus

import DaqBus.Proofs.Channel.Interleaving
import DaqBus.Proofs.Memory.Access

/-!
# Flushing a channel-set

A flush only puts a content into a file, and no content changes which files can be reached. So whether
the buffer of a channel can be flushed is settled before the first of them is, and the channels of a set
are flushed independently of one another.
-/

namespace DaqBus

open Memory

namespace MemoryBus

variable {store : MemoryBus} {path other : String} {file : File}

/-- Why a path cannot be reached, if so: a failure is set up for it, or there is no file. -/
def refused? (store : MemoryBus) (path : String) : Option Errno :=
  (store.failures.find? path).or (if (store.files.find? path).isSome then none else some .noEntry)

theorem reach_cases (store : MemoryBus) (path : String) :
    (∃ code, store.refused? path = some code ∧ store.reach path = .error code) ∨
      ∃ file, store.refused? path = none ∧ store.reach path = .ok file ∧
        store.files.find? path = some file := by
  rw [refused?, reach]
  cases store.failures.find? path with
  | some code => exact .inl ⟨code, rfl, rfl⟩
  | none =>
      cases store.files.find? path with
      | none => exact .inl ⟨.noEntry, rfl, rfl⟩
      | some file => exact .inr ⟨file, rfl, rfl, rfl⟩

/-- The store after a text was put into a file, if the file can be reached. -/
def putText (path text : String) (store : MemoryBus) : MemoryBus :=
  match store.reach path with
  | .ok file => store.replaced path file (Text.Utf8.encode text)
  | .error _ => store

theorem find?_putText (path text : String) (store : MemoryBus) (other : String) :
    (store.putText path text).files.find? other =
      if path = other ∧ store.refused? path = none then
        (store.files.find? other).map ({ · with content := Text.Utf8.encode text })
      else store.files.find? other := by
  rw [putText]
  rcases store.reach_cases path with ⟨code, hrefused, hreach⟩ | ⟨file, hrefused, hreach, hfile⟩
  · simp [hreach, hrefused]
  · simp only [hreach, hrefused, and_true, replaced, Table.find?_insert]
    by_cases hpath : path = other
    · subst hpath
      simp [hfile]
    · simp [hpath, Ne.symm hpath]

theorem putText_eq (path text : String) (store : MemoryBus) :
    store.putText path text = { store with files := (store.putText path text).files } := by
  rw [putText]
  cases store.reach path <;> rfl

/-- A text makes no file, and it makes none go away. -/
theorem refused?_putText (path text : String) (store : MemoryBus) (other : String) :
    (store.putText path text).refused? other = store.refused? other := by
  have hfailures : (store.putText path text).failures = store.failures := by rw [putText_eq]
  rw [refused?, refused?, hfailures, find?_putText]
  split
  · rw [Option.isSome_map]
  · rfl

end MemoryBus

/-! ### One channel -/

namespace Channel

variable {channel other : Channel} {bus : Bus MemoryBus}

def flushPath (channel : Channel) : String := channel.buffer.flushSwitch.path

/-- The failure of a flush, if it fails. -/
def flushFailure? (channel : Channel) (store : MemoryBus) : Option BusError :=
  (store.refused? channel.flushPath).map fun code => .ioFailure channel.flushPath code.message

theorem flushFailure?_eq_none_iff {store : MemoryBus} :
    channel.flushFailure? store = none ↔ store.refused? channel.flushPath = none :=
  Option.map_eq_none_iff

theorem exists_file_of_works {store : MemoryBus} (hworks : channel.flushFailure? store = none) :
    ∃ file, store.files.find? channel.flushPath = some file := by
  have hreached := flushFailure?_eq_none_iff.mp hworks
  rcases store.reach_cases channel.flushPath with ⟨code, hrefused, -⟩ | ⟨file, -, -, hfile⟩
  · rw [hreached] at hrefused
    cases hrefused
  · exact ⟨file, hfile⟩

/-- What the log says about the flush of a channel. -/
def flushEvents (channel : Channel) (store : MemoryBus) : List Event :=
  match channel.flushFailure? store with
  | none => [.textWritten channel.flushPath "1", .bufferFlushed channel.buffer.node.base]
  | some failure => [.flushFailed channel.node.deviceName failure]

theorem flush_eq (hopen : bus.isClosed channel.buffer.flushSwitch.opening.number = false) :
    channel.buffer.flush bus =
      match channel.flushFailure? bus.store with
      | none => (.ok (), { bus with
          store := bus.store.putText channel.flushPath "1"
          log := bus.log ++ channel.flushEvents bus.store })
      | some failure => (.error failure, bus) := by
  have hwrite := Attribute.writeText_eq hopen "1"
  unfold Buffer.flush flushEvents flushFailure? flushPath MemoryBus.putText
  rcases bus.store.reach_cases channel.buffer.flushSwitch.path with
    ⟨code, hrefused, hreach⟩ | ⟨file, hrefused, hreach, -⟩
  · rw [hreach] at hwrite
    rw [hrefused]
    exact Effect.bind_of_error hwrite
  · rw [hreach] at hwrite
    rw [Effect.bind_of_ok hwrite, hrefused, hreach]
    show (_, Bus.record _ _) = _
    simp [Bus.record]

theorem flushFailure?_putText (other : Channel) (path text : String) (store : MemoryBus) :
    other.flushFailure? (store.putText path text) = other.flushFailure? store := by
  rw [flushFailure?, flushFailure?, MemoryBus.refused?_putText]

theorem flushEvents_putText (other : Channel) (path text : String) (store : MemoryBus) :
    other.flushEvents (store.putText path text) = other.flushEvents store := by
  rw [flushEvents, flushEvents, flushFailure?_putText]

theorem flushEvents_of_failure {store : MemoryBus} {failure : BusError}
    (hfailure : channel.flushFailure? store = some failure) :
    channel.flushEvents store = [.flushFailed channel.node.deviceName failure] := by
  rw [flushEvents, hfailure]

theorem putText_of_failure {store : MemoryBus} {failure : BusError}
    (hfailure : channel.flushFailure? store = some failure) (text : String) :
    store.putText channel.flushPath text = store := by
  obtain ⟨code, hrefused, -⟩ := Option.map_eq_some_iff.mp hfailure
  rcases store.reach_cases channel.flushPath with ⟨code', -, hreach⟩ | ⟨file, hnone, -, -⟩
  · rw [MemoryBus.putText, hreach]
  · rw [hnone] at hrefused
    cases hrefused

end Channel

/-! ### All channels -/

namespace ChannelSet

variable {channels : List Channel} {bus : Bus MemoryBus}

def flushedStore (channels : List Channel) (store : MemoryBus) : MemoryBus :=
  channels.foldl (fun store channel => store.putText channel.flushPath "1") store

theorem flushEach_cons {channel : Channel}
    (hopen : bus.isClosed channel.buffer.flushSwitch.opening.number = false)
    (channels : List Channel) (last : Option BusError) :
    (flushEach (channel :: channels) last : BusM MemoryBus BusError (Option BusError)) bus =
      flushEach channels ((channel.flushFailure? bus.store).or last) { bus with
        store := bus.store.putText channel.flushPath "1"
        log := bus.log ++ channel.flushEvents bus.store } := by
  have hflush := Channel.flush_eq hopen
  rw [flushEach, Effect.bind_apply, Bus.attempt, hflush]
  cases hfailure : channel.flushFailure? bus.store with
  | none => rfl
  | some failure =>
      rw [Channel.flushEvents_of_failure hfailure, Channel.putText_of_failure hfailure]
      rfl

/-- **All channels, one after the other.** -/
theorem flushEach_eq (hopen : ∀ channel ∈ channels,
      bus.isClosed channel.buffer.flushSwitch.opening.number = false) (last : Option BusError) :
    (flushEach channels last : BusM MemoryBus BusError (Option BusError)) bus =
      (.ok ((channels.filterMap (·.flushFailure? bus.store)).getLast?.or last),
        { bus with
          store := flushedStore channels bus.store
          log := bus.log ++ channels.flatMap (·.flushEvents bus.store) }) := by
  induction channels generalizing bus last with
  | nil =>
      rw [flushEach, List.flatMap_nil, List.append_nil]
      rfl
  | cons channel channels ih =>
      obtain ⟨hfirst, hrest⟩ := List.forall_mem_cons.mp hopen
      let flushed : Bus MemoryBus := { bus with
        store := bus.store.putText channel.flushPath "1"
        log := bus.log ++ channel.flushEvents bus.store }
      have hlater : ∀ other ∈ channels,
          flushed.isClosed other.buffer.flushSwitch.opening.number = false := hrest
      rw [flushEach_cons hfirst, ih hlater]
      simp only [flushed, Channel.flushFailure?_putText, Channel.flushEvents_putText, List.flatMap_cons,
        List.append_assoc, List.filterMap_cons]
      cases channel.flushFailure? bus.store with
      | none => rfl
      | some failure =>
          dsimp only
          rw [List.getLast?_cons]
          cases (channels.filterMap (·.flushFailure? bus.store)).getLast? <;> rfl

theorem find?_flushedStore (channels : List Channel) (store : MemoryBus) (path : String) :
    (flushedStore channels store).files.find? path =
      if ∃ channel ∈ channels, channel.flushPath = path ∧ channel.flushFailure? store = none then
        (store.files.find? path).map ({ · with content := Text.Utf8.encode "1" })
      else store.files.find? path := by
  induction channels generalizing store with
  | nil => simp [flushedStore]
  | cons channel channels ih =>
      have hfirst := store.find?_putText channel.flushPath "1" path
      have hrest := ih (store.putText channel.flushPath "1")
      simp only [Channel.flushFailure?_putText] at hrest
      simp only [← Channel.flushFailure?_eq_none_iff] at hfirst
      rw [flushedStore, List.foldl_cons, ← flushedStore, hrest, hfirst]
      simp only [List.mem_cons, or_and_right, exists_or, exists_eq_left]
      -- A later channel with the same file writes the same text again.
      by_cases hhere : channel.flushPath = path ∧ channel.flushFailure? store = none
      · by_cases hlater : ∃ other ∈ channels, other.flushPath = path ∧ other.flushFailure? store = none
        · simp only [hhere, hlater, and_self, if_true, true_or, Option.map_map]
          rfl
        · simp only [hhere, hlater, and_self, if_true, if_false, true_or]
      · simp only [hhere, if_false, false_or]

theorem find?_flushedStore_of_works {channel : Channel} {store : MemoryBus}
    (hmem : channel ∈ channels) (hworks : channel.flushFailure? store = none) :
    ∃ file, store.files.find? channel.flushPath = some file ∧
      (flushedStore channels store).files.find? channel.flushPath =
        some { file with content := Text.Utf8.encode "1" } := by
  obtain ⟨file, hfile⟩ := Channel.exists_file_of_works hworks
  refine ⟨file, hfile, ?_⟩
  rw [find?_flushedStore, if_pos ⟨channel, hmem, rfl, hworks⟩, hfile]
  rfl

theorem find?_flushedStore_of_other {store : MemoryBus} {path : String}
    (hother : ∀ channel ∈ channels, channel.flushFailure? store = none → channel.flushPath ≠ path) :
    (flushedStore channels store).files.find? path = store.files.find? path := by
  rw [find?_flushedStore, if_neg]
  rintro ⟨channel, hmem, hpath, hworks⟩
  exact hother channel hmem hworks hpath

theorem flushedStore_eq (channels : List Channel) (store : MemoryBus) :
    flushedStore channels store = { store with files := (flushedStore channels store).files } := by
  refine List.foldlRecOn (motive := fun later : MemoryBus => later = { store with files := later.files })
    channels _ rfl ?_
  intro later h channel _
  calc later.putText channel.flushPath "1"
      = { later with files := (later.putText channel.flushPath "1").files } := later.putText_eq _ _
    _ = { store with files := (later.putText channel.flushPath "1").files } := by rw [h]

/-- The warnings are those about the channels that fail. -/
theorem filter_flushEvents (channels : List Channel) (store : MemoryBus) :
    (channels.flatMap (·.flushEvents store)).filter (·.level = .warn) =
      channels.filterMap fun channel =>
        (channel.flushFailure? store).map (.flushFailed channel.node.deviceName) := by
  induction channels with
  | nil => rfl
  | cons channel channels ih =>
      rw [List.flatMap_cons, List.filter_append, ih, List.filterMap_cons, Channel.flushEvents]
      cases channel.flushFailure? store <;> rfl

theorem flushAll_eq {set : ChannelSet} (hopen : ∀ channel ∈ set.channels,
      bus.isClosed channel.buffer.flushSwitch.opening.number = false) :
    set.flushAll bus =
      ((set.channels.filterMap (·.flushFailure? bus.store)).getLast?.elim (.ok ()) .error,
        { bus with
          store := flushedStore set.channels bus.store
          log := bus.log ++ set.channels.flatMap (·.flushEvents bus.store) }) := by
  unfold flushAll
  rw [Effect.bind_of_ok (flushEach_eq hopen none), Option.or_none]
  cases (set.channels.filterMap (·.flushFailure? bus.store)).getLast? <;> rfl

end ChannelSet

/-! ### Devices -/

theorem Memory.Blueprint.flush_of_channelRecord? {blueprint : Blueprint}
    {streams : String → Option StreamPair} {i j : Nat} {set : SetBlueprint} {channel : ChannelRecord}
    (h : blueprint.channelRecord? streams i set j = some channel) :
    channel.buffer.flush = s!"{channel.head.base}/buffer/flush" := by
  simp only [channelRecord?, Option.pure_def, Option.bind_eq_bind, Option.bind_eq_some_iff,
    Option.some.injEq] at h
  obtain ⟨pair, -, rfl⟩ := h
  rfl

theorem Bus.flushSwitch_of_openDevice {before opened : Bus MemoryBus} {name : String}
    {id : Option UInt32} {device : Device} (hopening : openDevice name id before = (.ok device, opened))
    {set : ChannelSet} (hset : set ∈ device.sets) {channel : Channel}
    (hchannel : channel ∈ set.channels) :
    channel.buffer.flushSwitch =
      { path := s!"{channel.node.base}/buffer/flush", opening := device.opening } := by
  obtain ⟨-, -, -, record, blueprint, -, hrecord, rfl⟩ := openDevice_eq_ok hopening
  obtain ⟨setRecord, hsetRecord, rfl⟩ := List.mem_map.mp hset
  obtain ⟨channelRecord, hchannelRecord, rfl⟩ := List.mem_map.mp hchannel
  obtain ⟨i, made, hmade⟩ := (Blueprint.of_record? hrecord).2 setRecord hsetRecord
  obtain ⟨j, hfound⟩ := (Blueprint.of_setRecord? hmade).2.2 channelRecord hchannelRecord
  exact congrArg (Attribute.mk · _) (Blueprint.flush_of_channelRecord? hfound)

/-- **A flush of a set goes on after failures.** On any store, whatever failures are set up and whatever
files are missing: the flush file of every channel that can be reached holds a one afterwards, and
everything else in the store is as it was. The log tells of every channel in order, with one warning for
each that failed, and the flush as a whole fails as the last of these did. -/
theorem flushAll_goes_on {before opened : Bus MemoryBus} {name : String} {id : Option UInt32}
    {device : Device} (hopening : Bus.openDevice name id before = (.ok device, opened))
    {set : ChannelSet} (hset : set ∈ device.sets) {bus : Bus MemoryBus}
    (hopen : bus.isClosed device.opening.number = false) :
    (∀ channel ∈ set.channels, channel.flushPath = s!"{channel.node.base}/buffer/flush") ∧
    ∃ files events,
      set.flushAll bus =
        ((set.channels.filterMap (·.flushFailure? bus.store)).getLast?.elim (.ok ()) .error,
          { bus with store := { bus.store with files }, log := bus.log ++ events }) ∧
      (∀ channel ∈ set.channels, channel.flushFailure? bus.store = none →
        ∃ file, bus.store.files.find? channel.flushPath = some file ∧
          files.find? channel.flushPath = some { file with content := Text.Utf8.encode "1" }) ∧
      (∀ path, (∀ channel ∈ set.channels, channel.flushFailure? bus.store = none →
          channel.flushPath ≠ path) → files.find? path = bus.store.files.find? path) ∧
      events = set.channels.flatMap (·.flushEvents bus.store) ∧
      events.filter (·.level = .warn) = set.channels.filterMap fun channel =>
        (channel.flushFailure? bus.store).map (.flushFailed channel.node.deviceName) := by
  have hswitch : ∀ channel ∈ set.channels, channel.buffer.flushSwitch = _ :=
    fun channel hchannel => Bus.flushSwitch_of_openDevice hopening hset hchannel
  have hopenings : ∀ channel ∈ set.channels,
      bus.isClosed channel.buffer.flushSwitch.opening.number = false := by
    intro channel hchannel
    rw [hswitch channel hchannel]
    exact hopen
  refine ⟨fun channel hchannel => congrArg Attribute.path (hswitch channel hchannel), ?_⟩
  refine ⟨(ChannelSet.flushedStore set.channels bus.store).files, _, ?_, ?_, ?_, rfl,
    ChannelSet.filter_flushEvents set.channels bus.store⟩
  · rw [ChannelSet.flushAll_eq hopenings, ChannelSet.flushedStore_eq]
  · exact fun channel hmem hworks => ChannelSet.find?_flushedStore_of_works hmem hworks
  · exact fun path hother => ChannelSet.find?_flushedStore_of_other hother

/-! The flush file of the first of two inputs is broken. -/

def brokenFlush : String := "/sys/bus/zio/devices/adc/cset0/chan0/buffer/flush"

def workingFlush : String := "/sys/bus/zio/devices/adc/cset0/chan1/buffer/flush"

def halfBroken : Bus MemoryBus :=
  { Bus.openedTwoInputs.2 with
    store := Bus.openedTwoInputs.2.store.failPath brokenFlush .inputOutput }

theorem flushAll_goes_on_halfBroken :
    ∃ device opened, Bus.openedTwoInputs = (.ok device, opened) ∧ ∃ set ∈ device.sets,
      (set.flushAll halfBroken).1 =
          .error (.ioFailure brokenFlush Errno.inputOutput.message) ∧
        (set.flushAll halfBroken).2.store.file? brokenFlush = some [] ∧
        (set.flushAll halfBroken).2.store.file? workingFlush = some (Text.Utf8.encode "1") := by
  have hflushes : Bus.openedTwoInputs.1.toOption.map (fun device =>
      (halfBroken.isClosed device.opening.number, device.sets.map fun set =>
        set.channels.map fun channel =>
          (channel.flushPath, channel.flushFailure? halfBroken.store))) =
      some (false, [[(brokenFlush, some (.ioFailure brokenFlush Errno.inputOutput.message)),
        (workingFlush, none)]]) := by decide
  have hfile : halfBroken.store.file? brokenFlush = some [] := by decide
  rcases hopening : Bus.openedTwoInputs with ⟨_ | device, opened⟩
  · rw [hopening] at hflushes
    cases hflushes
  rw [hopening] at hflushes
  obtain ⟨hopen, hsets⟩ := Prod.mk.inj (Option.some.inj hflushes)
  obtain ⟨set, hset, hchannels⟩ := List.map_eq_singleton_iff.mp hsets
  have hmem : set ∈ device.sets := hset ▸ List.mem_singleton_self set
  obtain ⟨-, files, events, hflush, hreached, hspared, -, -⟩ := flushAll_goes_on hopening hmem hopen
  obtain ⟨first, rest, hsplit, hfirst, hrest⟩ := List.map_eq_cons_iff.mp hchannels
  obtain ⟨second, rfl, hsecond⟩ := List.map_eq_singleton_iff.mp hrest
  obtain ⟨hfirstPath, hfirstFails⟩ := Prod.mk.inj hfirst
  obtain ⟨hsecondPath, hsecondWorks⟩ := Prod.mk.inj hsecond
  refine ⟨device, opened, rfl, set, hmem, ?_, ?_, ?_⟩
  · rw [hflush, hsplit]
    simp [hfirstFails, hsecondWorks]
  · have hother : ∀ channel ∈ set.channels, channel.flushFailure? halfBroken.store = none →
        channel.flushPath ≠ brokenFlush := by
      have hpaths : workingFlush ≠ brokenFlush := by decide
      simp [hsplit, hfirstFails, hsecondPath, hpaths]
    rw [hflush]
    show (files.find? brokenFlush).map File.content = some []
    rw [hspared brokenFlush hother]
    exact hfile
  · obtain ⟨file, -, hwritten⟩ := hreached second (by simp [hsplit]) hsecondWorks
    rw [hsecondPath] at hwritten
    rw [hflush]
    show (files.find? workingFlush).map File.content = _
    rw [hwritten]
    rfl

end DaqBus

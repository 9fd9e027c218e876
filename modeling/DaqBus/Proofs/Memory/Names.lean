import DaqBus.Proofs.Channel.Index
import DaqBus.Proofs.Memory.FirstFiles

/-!
# Names of devices in memory

The files of a device lie in a directory that is called like its key, and its channels are called after
its name and its number, where no number counts as zero. So devices with different keys have no file in
common, but a device without a number may share the names of its channels with one that has it.
-/

namespace DaqBus

open Memory

/-! ### Paths of a record -/

def HeadRecord.paths (head : HeadRecord) : List String :=
  head.enable :: attributePaths head.standard.toList head.extended.toList

def ChannelRecord.paths (channel : ChannelRecord) : List String :=
  channel.head.paths ++ channel.buffer.head.paths ++
    [channel.currentControl, channel.alarms, channel.buffer.flush]

def ChannelSetRecord.paths (set : ChannelSetRecord) : List String :=
  set.head.paths ++ set.trigger.head.paths ++ [set.currentTrigger, set.currentBuffer] ++
    set.channels.flatMap ChannelRecord.paths

def DeviceRecord.paths (device : DeviceRecord) : List String :=
  device.head.paths ++ device.sets.flatMap ChannelSetRecord.paths

variable {opening : Opening} {id : Option UInt32} {handle : Attribute} {record : DeviceRecord}

theorem Node.path_of_mem_handles {head : HeadRecord} (h : handle ∈ (Node.ofHead opening head).handles) :
    handle.path ∈ head.paths := by
  rcases List.mem_cons.mp h with rfl | hattribute
  · exact List.mem_cons_self
  · obtain ⟨path, hpath, rfl⟩ := List.mem_map.mp hattribute
    exact List.mem_cons_of_mem _ hpath

theorem ChannelSet.path_of_mem_registers {set : ChannelSetRecord}
    (h : handle ∈ (ChannelSet.ofRecord opening set).registers) : handle.path ∈ set.paths := by
  simp only [registers, ofRecord, List.flatMap_map, List.cons_append, List.nil_append, List.mem_cons,
    List.mem_flatMap, List.not_mem_nil, or_false] at h
  rcases h with rfl | rfl | ⟨channel, hchannel, hregister⟩
  · simp [ChannelSetRecord.paths]
  · simp [ChannelSetRecord.paths]
  · refine List.mem_append_right _ (List.mem_flatMap.mpr ⟨channel, hchannel, ?_⟩)
    rcases hregister with rfl | rfl | rfl <;>
      simp [ChannelRecord.paths, Channel.ofRecord, Buffer.ofRecord]

theorem ChannelSetRecord.paths_subset {set : ChannelSetRecord} {head : HeadRecord}
    (h : head ∈ set.objects ++ set.parts) : head.paths ⊆ set.paths := by
  have hchannel {channel : ChannelRecord} (hmem : channel ∈ set.channels) {path : String}
      (hpath : path ∈ channel.head.paths ++ channel.buffer.head.paths) : path ∈ set.paths :=
    List.mem_append_right _ (List.mem_flatMap.mpr ⟨channel, hmem, List.mem_append_left _ hpath⟩)
  intro path hpath
  simp only [objects, parts, List.cons_append, List.mem_cons, List.mem_append, List.mem_map] at h
  rcases h with rfl | ⟨channel, hmem, rfl⟩ | rfl | ⟨channel, hmem, rfl⟩
  · simp [paths, hpath]
  · exact hchannel hmem (List.mem_append_left _ hpath)
  · simp [paths, hpath]
  · exact hchannel hmem (List.mem_append_right _ hpath)

theorem DeviceRecord.paths_subset {head : HeadRecord} (h : head ∈ record.objects ++ record.parts) :
    head.paths ⊆ record.paths := by
  intro path hpath
  have hset {set : ChannelSetRecord} (hmem : set ∈ record.sets)
      (hhead : head ∈ set.objects ++ set.parts) : path ∈ record.paths :=
    List.mem_append_right _
      (List.mem_flatMap.mpr ⟨set, hmem, ChannelSetRecord.paths_subset hhead hpath⟩)
  simp only [objects, parts, List.cons_append, List.mem_cons, List.mem_append, List.mem_flatMap] at h
  rcases h with rfl | ⟨set, hmem, hobject⟩ | ⟨set, hmem, hpart⟩
  · exact List.mem_append_left _ hpath
  · exact hset hmem (List.mem_append_left _ hobject)
  · exact hset hmem (List.mem_append_right _ hpart)

/-- Every handle of a tree is to a path of the record. -/
theorem Device.path_of_mem_handles (h : handle ∈ (ofRecord opening id record).handles) :
    handle.path ∈ record.paths := by
  rcases List.mem_append.mp h with hnodes | hregisters
  · obtain ⟨node, hnode, hhandle⟩ := List.mem_flatMap.mp hnodes
    obtain ⟨head, hhead, rfl⟩ := exists_head_of_mem_nodes hnode
    exact DeviceRecord.paths_subset hhead (Node.path_of_mem_handles hhandle)
  · simp only [ofRecord, List.flatMap_map, List.mem_flatMap] at hregisters
    obtain ⟨set, hset, hhandle⟩ := hregisters
    exact List.mem_append_right _
      (List.mem_flatMap.mpr ⟨set, hset, ChannelSet.path_of_mem_registers hhandle⟩)

namespace Memory

variable {dir base path name : String} {blueprint other : Blueprint} {set : ChannelSetRecord}
  {channel : ChannelRecord} {setBlueprint : SetBlueprint} {streams : String → Option StreamPair}
  {i j : Nat}

/-! ### The directory of a device -/

theorem Below.trans (h : Below dir base) (hpath : Below base path) : Below dir path := by
  obtain ⟨rest, rfl⟩ := h
  exact hpath.up

theorem mem_of_mem_takeWhile_ofList {n : Nat} {paths : List String} {p : String → Bool}
    (h : path ∈ (Slots.ofList n paths).toList.takeWhile p) (hp : p "" = false) : path ∈ paths := by
  have hmem := (List.takeWhile_sublist p).subset h
  have hfull := List.all_eq_true.mp List.all_takeWhile path h
  simp only [Slots.ofList, Vector.toList_ofFn, List.mem_ofFn] at hmem
  obtain ⟨k, rfl⟩ := hmem
  cases hk : paths[k.val]? with
  | none => simp [hk, hp] at hfull
  | some found =>
      rw [Option.getD_some]
      exact List.mem_of_getElem? hk

theorem below_of_mem_head {deviceName : String} {kind : ObjectKind}
    {attributes extended : AttributeList}
    (h : path ∈ (head base name deviceName kind attributes extended).paths) : Below base path := by
  have hgroup {group : String} {values : AttributeList} {n : Nat}
      (hpath : path ∈ (Slots.ofList n (values.map fun a =>
        attributePath base group a.1)).toList.takeWhile (· ≠ "")) : Below base path := by
    obtain ⟨a, -, rfl⟩ := List.mem_map.mp (mem_of_mem_takeWhile_ofList hpath rfl)
    exact (below_entry (entry base group) a.1).up
  rcases List.mem_cons.mp h with rfl | hattribute
  · exact below_leaf base "enable" rfl
  · exact (List.mem_append.mp hattribute).elim hgroup hgroup

namespace Blueprint

theorem below_of_channelRecord? (h : blueprint.channelRecord? streams i setBlueprint j = some channel)
    (hpath : path ∈ channel.paths) : Below (blueprint.channelBase i j) path := by
  simp only [channelRecord?, Option.pure_def, Option.bind_eq_bind, Option.bind_eq_some_iff,
    Option.some.injEq] at h
  obtain ⟨pair, -, rfl⟩ := h
  have hbuffer : Below (blueprint.channelBase i j) s!"{blueprint.channelBase i j}/buffer" :=
    below_leaf (blueprint.channelBase i j) "buffer" rfl
  simp only [ChannelRecord.paths, List.mem_append, List.mem_cons, List.not_mem_nil, or_false] at hpath
  rcases hpath with (hown | hpart) | rfl | rfl | rfl
  · exact below_of_mem_head hown
  · exact hbuffer.trans (below_of_mem_head hpart)
  · exact below_leaf (blueprint.channelBase i j) "current_control" rfl
  · exact below_leaf (blueprint.channelBase i j) "alarms" rfl
  · exact below_leaf (blueprint.channelBase i j) "buffer/flush" rfl

theorem below_of_setRecord? (h : blueprint.setRecord? streams i setBlueprint = some set)
    (hpath : path ∈ set.paths) : Below (blueprint.setBase i) path := by
  simp only [setRecord?, Option.pure_def, Option.bind_eq_bind, Option.bind_eq_some_iff,
    Option.some.injEq] at h
  obtain ⟨channels, hchannels, rfl⟩ := h
  have htrigger : Below (blueprint.setBase i) s!"{blueprint.setBase i}/trigger" :=
    below_leaf (blueprint.setBase i) "trigger" rfl
  simp only [ChannelSetRecord.paths, List.mem_append, List.mem_cons, List.not_mem_nil, or_false,
    List.mem_flatMap] at hpath
  rcases hpath with ((hown | hpart) | rfl | rfl) | ⟨channel, hchannel, hbelow⟩
  · exact below_of_mem_head hown
  · exact htrigger.trans (below_of_mem_head hpart)
  · exact below_leaf (blueprint.setBase i) "current_trigger" rfl
  · exact below_leaf (blueprint.setBase i) "current_buffer" rfl
  · obtain ⟨j, -, hrecord⟩ := exists_of_mem_mapM hchannels hchannel
    have hpath := below_of_channelRecord? hrecord hbelow
    rw [channelBase_eq] at hpath
    exact hpath.up

/-- All paths of a device lie in its directory. -/
theorem below_of_record? (h : blueprint.record? streams = some record) (hpath : path ∈ record.paths) :
    Below blueprint.base path := by
  simp only [record?, Option.pure_def, Option.bind_eq_bind, Option.bind_eq_some_iff,
    Option.some.injEq] at h
  obtain ⟨sets, hsets, rfl⟩ := h
  rcases List.mem_append.mp hpath with hown | hsetPath
  · exact below_of_mem_head hown
  · obtain ⟨set, hset, hbelow⟩ := List.mem_flatMap.mp hsetPath
    obtain ⟨⟨setBlueprint, i⟩, -, hrecord⟩ := exists_of_mem_mapM hsets hset
    have hpath := below_of_setRecord? hrecord hbelow
    rw [setBase_eq] at hpath
    exact hpath.up

theorem slash_not_mem_key (h : '/' ∉ blueprint.name.toList) : '/' ∉ blueprint.key.toList := by
  unfold key
  cases blueprint.id with
  | none => exact h
  | some id => simp [instanceName, idText, toString, h, Text.slash_not_mem_hex]

/-- No path lies in the directories of two devices. -/
theorem not_below_base (hname : '/' ∉ blueprint.name.toList) (hother : '/' ∉ other.name.toList)
    (hne : blueprint.key ≠ other.key) (hpath : Below blueprint.base path) : ¬ Below other.base path :=
  not_below_of_ne (slash_not_mem_key hname) (slash_not_mem_key hother) hne hpath

/-- Of another device, all files lie in the directory or none. -/
theorem below_base_iff (hname : '/' ∉ blueprint.name.toList) (hpath : Below other.base path) :
    Below blueprint.base path ↔ Below blueprint.base (entry other.base "") := by
  obtain ⟨rest, rfl⟩ := hpath
  have hentry (blueprint : Blueprint) (rest : String) : (entry blueprint.base rest).toList =
      devicesRoot.toList ++ '/' :: (blueprint.key.toList ++ '/' :: rest.toList) := by
    simp [entry, base, toString]
  constructor
  · rintro ⟨rest', heq⟩
    have hlist := congrArg String.toList heq
    rw [hentry, hentry, List.append_cancel_left_eq, List.cons.injEq] at hlist
    obtain ⟨-, hlist⟩ := hlist
    have hlead : other.key.toList ++ ['/'] <+: blueprint.key.toList ++ '/' :: rest'.toList :=
      ⟨rest.toList, by rw [← hlist]; simp⟩
    have hlead' : blueprint.key.toList ++ ['/'] <+: blueprint.key.toList ++ '/' :: rest'.toList :=
      ⟨rest'.toList, by simp⟩
    have hbelow (more : List Char)
        (h : other.key.toList ++ ['/'] = blueprint.key.toList ++ '/' :: more) :
        Below blueprint.base (entry other.base "") :=
      ⟨String.ofList more, String.toList_injective (by rw [hentry, hentry]; simpa using h)⟩
    rcases List.prefix_or_prefix_of_prefix hlead hlead' with hle | ⟨more, hmore⟩
    · rcases List.prefix_concat_iff.mp hle with hsame | hinside
      · exact hbelow [] hsame
      · exact absurd (hinside.subset (by simp)) (slash_not_mem_key hname)
    · exact hbelow more (by simpa using hmore.symm)
  · rintro ⟨rest', heq⟩
    refine ⟨rest' ++ rest, ?_⟩
    have hsplit (dir first : String) : entry dir (first ++ rest) = entry dir first ++ rest := by
      simp [entry, toString, String.append_assoc]
    rw [hsplit, ← heq, ← hsplit, String.empty_append]

/-! ### The name of a device -/

theorem deviceName_inj (h : blueprint.deviceName = other.deviceName) :
    blueprint.name = other.name ∧ blueprint.id.getD 0 = other.id.getD 0 := by
  have hdigits (n : Nat) : '-' ∉ (Text.hex 4 n).toList := Text.not_mem_hex (by decide) 4 n
  have hname (blueprint : Blueprint) : blueprint.deviceName.toList =
      blueprint.name.toList ++ '-' :: (Text.hex 4 (blueprint.id.getD 0).toNat).toList := by
    simp [deviceName, toString]
  have hnames := congrArg String.toList h
  rw [hname, hname] at hnames
  obtain ⟨hsame, hnumber⟩ := Text.back_inj (hdigits _) (hdigits _) hnames
  refine ⟨String.toList_injective hsame, UInt32.toNat_inj.mp ?_⟩
  exact Text.hex_inj (String.toList_injective hnumber)

/-- Under different keys, devices of one name have the same number only if one of them has none. -/
theorem number_eq_iff (hkey : blueprint.key ≠ other.key) (hname : blueprint.name = other.name) :
    blueprint.id.getD 0 = other.id.getD 0 ↔
      blueprint.id = none ∧ other.id = some 0 ∨ blueprint.id = some 0 ∧ other.id = none := by
  rw [key, key, hname] at hkey
  cases hid : blueprint.id with
  | none =>
      cases hid' : other.id with
      | none => simp [hid, hid'] at hkey
      | some number => simp [eq_comm]
  | some id =>
      cases hid' : other.id with
      | none => simp
      | some number =>
          have hne : id ≠ number := by
            rintro rfl
            simp [hid, hid'] at hkey
          simp [hne]

/-- Three devices of one name and one number have not three keys. -/
theorem key_eq_of_deviceName {third : Blueprint} (h : blueprint.deviceName = other.deviceName)
    (hthird : blueprint.deviceName = third.deviceName) :
    blueprint.key = other.key ∨ blueprint.key = third.key ∨ other.key = third.key := by
  by_contra! hkeys
  obtain ⟨hne, hne', hne''⟩ := hkeys
  obtain ⟨hname, hnumber⟩ := deviceName_inj h
  obtain ⟨hname', hnumber'⟩ := deviceName_inj hthird
  have hids := (number_eq_iff hne hname).mp hnumber
  have hids' := (number_eq_iff hne' hname').mp hnumber'
  have hids'' := (number_eq_iff hne'' (hname.symm.trans hname')).mp (hnumber.symm.trans hnumber')
  rcases hids with ⟨hnone, hzero⟩ | ⟨hzero, hnone⟩
  · simp [hnone, hzero] at hids' hids''
    simp [hids'] at hids''
  · simp [hnone, hzero] at hids' hids''
    simp [hids'] at hids''

/-! ### The names of channels -/

/-- Channels of the two devices have a name in common. -/
def SharesNames (blueprint other : Blueprint) : Prop :=
  ∃ name ∈ blueprint.channelNames, name ∈ other.channelNames

theorem channelDeviceName_mem {index : ChannelIndex} (h : blueprint.HasChannel index) :
    blueprint.channelDeviceName index.set index.channel ∈ blueprint.channelNames := by
  obtain ⟨set, hset, hlt⟩ := h
  exact mem_channelNames_iff.mpr ⟨_, _, set, hset, hlt, rfl⟩

theorem exists_index_of_mem_channelNames (h : name ∈ blueprint.channelNames) :
    ∃ index, blueprint.HasChannel index ∧
      name = blueprint.channelDeviceName index.set index.channel := by
  obtain ⟨i, j, set, hset, hlt, rfl⟩ := mem_channelNames_iff.mp h
  exact ⟨⟨i, j⟩, ⟨set, hset, hlt⟩, rfl⟩

theorem sharesNames_iff (hkey : blueprint.key ≠ other.key) :
    blueprint.SharesNames other ↔ blueprint.name = other.name ∧
      (blueprint.id = none ∧ other.id = some 0 ∨ blueprint.id = some 0 ∧ other.id = none) ∧
      ∃ index, blueprint.HasChannel index ∧ other.HasChannel index := by
  constructor
  · rintro ⟨name, hmem, hmem'⟩
    obtain ⟨index, hchannel, rfl⟩ := exists_index_of_mem_channelNames hmem
    obtain ⟨index', hchannel', hsame⟩ := exists_index_of_mem_channelNames hmem'
    obtain ⟨hdevices, hset, hnumber⟩ := channelDeviceName_inj hsame
    obtain ⟨hnames, hids⟩ := deviceName_inj hdevices
    have hindex : index = index' := by cases index; cases index'; simp_all
    subst hindex
    exact ⟨hnames, (number_eq_iff hkey hnames).mp hids, index, hchannel, hchannel'⟩
  · rintro ⟨hnames, hids, index, hchannel, hchannel'⟩
    refine ⟨_, channelDeviceName_mem hchannel, ?_⟩
    have hdevices : blueprint.deviceName = other.deviceName := by
      simp only [deviceName, hnames, (number_eq_iff hkey hnames).mpr hids]
    have hname : blueprint.channelDeviceName index.set index.channel =
        other.channelDeviceName index.set index.channel := by
      simp only [channelDeviceName, setDeviceName, hdevices]
    rw [hname]
    exact channelDeviceName_mem hchannel'

end Blueprint

end Memory

end DaqBus

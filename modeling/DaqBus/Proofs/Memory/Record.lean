import DaqBus.Memory.Blueprint
import DaqBus.Proofs.Tree.Handles

/-!
# Records of blueprints

What the record of a blueprint is put together from: every object and every part has a head of one
make, and every channel has the streams that are registered under its name.
-/

namespace DaqBus.Memory

variable {device : Blueprint} {streams : String → Option StreamPair} {record : DeviceRecord}
  {set : ChannelSetRecord} {channel : ChannelRecord} {blueprint : SetBlueprint} {i j : Nat}

/-- A head as a blueprint makes them. -/
def IsMade (made : HeadRecord) : Prop :=
  ∃ base name deviceName kind attributes extended,
    made = head base name deviceName kind attributes extended

theorem isMade_head (base name deviceName : String) (kind : ObjectKind)
    (attributes extended : AttributeList) :
    IsMade (head base name deviceName kind attributes extended) :=
  ⟨base, name, deviceName, kind, attributes, extended, rfl⟩

theorem IsMade.enable_eq {made : HeadRecord} (h : IsMade made) :
    made.enable = s!"{made.base}/enable" := by
  obtain ⟨base, name, deviceName, kind, attributes, extended, rfl⟩ := h
  rfl

theorem exists_of_mapM_getElem? {α β : Type} {f : α → Option β} {values : List α}
    {results : List β} (hmap : values.mapM f = some results) {k : Nat} {b : β}
    (hresult : results[k]? = some b) : ∃ a, values[k]? = some a ∧ f a = some b := by
  induction values generalizing results k with
  | nil =>
      cases hmap
      cases hresult
  | cons a values ih =>
      simp only [List.mapM_cons, Option.pure_def, Option.bind_eq_bind, Option.bind_eq_some_iff,
        Option.some.injEq] at hmap
      obtain ⟨first, hfirst, rest, hrest, rfl⟩ := hmap
      cases k with
      | zero =>
          cases hresult
          exact ⟨a, rfl, hfirst⟩
      | succ k => exact ih hrest hresult

theorem exists_of_mem_mapM {α β : Type} {f : α → Option β} {values : List α} {results : List β}
    (hmap : values.mapM f = some results) {b : β} (hmem : b ∈ results) :
    ∃ a ∈ values, f a = some b := by
  obtain ⟨k, hk⟩ := List.getElem?_of_mem hmem
  obtain ⟨a, ha, hresult⟩ := exists_of_mapM_getElem? hmap hk
  exact ⟨a, List.mem_of_getElem? ha, hresult⟩

namespace Blueprint

theorem of_channelRecord? (h : device.channelRecord? streams i blueprint j = some channel) :
    streams channel.head.deviceName = some ⟨channel.streams.data, channel.streams.control⟩ ∧
      IsMade channel.head ∧ IsMade channel.buffer.head := by
  simp only [channelRecord?, Option.pure_def, Option.bind_eq_bind, Option.bind_eq_some_iff,
    Option.some.injEq] at h
  obtain ⟨pair, hpair, rfl⟩ := h
  exact ⟨hpair, isMade_head .., isMade_head ..⟩

theorem of_setRecord? (h : device.setRecord? streams i blueprint = some set) :
    IsMade set.head ∧ IsMade set.trigger.head ∧
      ∀ channel ∈ set.channels, ∃ j, device.channelRecord? streams i blueprint j = some channel := by
  simp only [setRecord?, Option.pure_def, Option.bind_eq_bind, Option.bind_eq_some_iff,
    Option.some.injEq] at h
  obtain ⟨channels, hchannels, rfl⟩ := h
  refine ⟨isMade_head .., isMade_head .., ?_⟩
  intro channel hchannel
  obtain ⟨j, -, hrecord⟩ := exists_of_mem_mapM hchannels hchannel
  exact ⟨j, hrecord⟩

theorem of_record? (h : device.record? streams = some record) :
    IsMade record.head ∧
      ∀ set ∈ record.sets, ∃ i blueprint, device.setRecord? streams i blueprint = some set := by
  simp only [record?, Option.pure_def, Option.bind_eq_bind, Option.bind_eq_some_iff,
    Option.some.injEq] at h
  obtain ⟨sets, hsets, rfl⟩ := h
  refine ⟨isMade_head .., ?_⟩
  intro set hset
  obtain ⟨⟨blueprint, i⟩, -, hrecord⟩ := exists_of_mem_mapM hsets hset
  exact ⟨i, blueprint, hrecord⟩

/-- Every channel has the streams that are registered under its name. -/
theorem streams_of_record? (h : device.record? streams = some record) (hset : set ∈ record.sets)
    (hchannel : channel ∈ set.channels) :
    streams channel.head.deviceName = some ⟨channel.streams.data, channel.streams.control⟩ := by
  obtain ⟨i, blueprint, hsetRecord⟩ := (of_record? h).2 set hset
  obtain ⟨j, hchannelRecord⟩ := (of_setRecord? hsetRecord).2.2 channel hchannel
  exact (of_channelRecord? hchannelRecord).1

theorem isMade_of_mem_set (h : device.setRecord? streams i blueprint = some set) {made : HeadRecord}
    (hmade : made ∈ set.objects ++ set.parts) : IsMade made := by
  obtain ⟨hset, htrigger, hchannels⟩ := of_setRecord? h
  rcases List.mem_append.mp hmade with hobject | hpart
  · rcases List.mem_cons.mp hobject with rfl | hchannel
    · exact hset
    · obtain ⟨channel, hmem, rfl⟩ := List.mem_map.mp hchannel
      obtain ⟨j, hrecord⟩ := hchannels channel hmem
      exact (of_channelRecord? hrecord).2.1
  · rcases List.mem_cons.mp hpart with rfl | hbuffer
    · exact htrigger
    · obtain ⟨channel, hmem, rfl⟩ := List.mem_map.mp hbuffer
      obtain ⟨j, hrecord⟩ := hchannels channel hmem
      exact (of_channelRecord? hrecord).2.2

theorem isMade_of_record? (h : device.record? streams = some record) {made : HeadRecord}
    (hmade : made ∈ record.objects ++ record.parts) : IsMade made := by
  obtain ⟨hdevice, hsets⟩ := of_record? h
  have hset {set : ChannelSetRecord} (hmem : set ∈ record.sets)
      (hmade : made ∈ set.objects ++ set.parts) : IsMade made := by
    obtain ⟨i, blueprint, hrecord⟩ := hsets set hmem
    exact isMade_of_mem_set hrecord hmade
  rcases List.mem_append.mp hmade with hobject | hpart
  · rcases List.mem_cons.mp hobject with rfl | hbelow
    · exact hdevice
    · obtain ⟨set, hmem, hmade⟩ := List.mem_flatMap.mp hbelow
      exact hset hmem (List.mem_append_left _ hmade)
  · obtain ⟨set, hmem, hmade⟩ := List.mem_flatMap.mp hpart
    exact hset hmem (List.mem_append_right _ hmade)

end Blueprint

end DaqBus.Memory

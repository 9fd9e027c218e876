import DaqBus.Tree.Basic

/-!
# The nodes and the handles of a tree

A device, its channel-sets and its channels are the objects of a tree; the triggers and the buffers are
parts of them. Every node is made from a record, and every handle is of the opening that made the tree.
-/

namespace DaqBus

variable {opening : Opening} {id : Option UInt32} {handle : Attribute} {node : Node}

/-! ### Records -/

namespace ChannelSetRecord

def objects (set : ChannelSetRecord) : List HeadRecord :=
  set.head :: set.channels.map ChannelRecord.head

def parts (set : ChannelSetRecord) : List HeadRecord :=
  set.trigger.head :: set.channels.map fun channel => channel.buffer.head

end ChannelSetRecord

namespace DeviceRecord

def objects (device : DeviceRecord) : List HeadRecord :=
  device.head :: device.sets.flatMap ChannelSetRecord.objects

def parts (device : DeviceRecord) : List HeadRecord :=
  device.sets.flatMap ChannelSetRecord.parts

end DeviceRecord

/-! ### Trees -/

def Node.handles (node : Node) : List Attribute :=
  node.enableSwitch :: node.attributes

namespace ChannelSet

def objects (set : ChannelSet) : List Node :=
  set.node :: set.channels.map Channel.node

def parts (set : ChannelSet) : List Node :=
  set.trigger.node :: set.channels.map fun channel => channel.buffer.node

/-- The handles that are not of a node. -/
def registers (set : ChannelSet) : List Attribute :=
  [set.triggerName, set.bufferName] ++ set.channels.flatMap fun channel =>
    [channel.currentControl, channel.alarmRegister, channel.buffer.flushSwitch]

theorem objects_ofRecord (opening : Opening) (record : ChannelSetRecord) :
    (ofRecord opening record).objects = record.objects.map (Node.ofHead opening) := by
  simp [objects, ofRecord, ChannelSetRecord.objects, Channel.ofRecord]

theorem parts_ofRecord (opening : Opening) (record : ChannelSetRecord) :
    (ofRecord opening record).parts = record.parts.map (Node.ofHead opening) := by
  simp [parts, ofRecord, ChannelSetRecord.parts, Channel.ofRecord, Buffer.ofRecord]

end ChannelSet

namespace Device

def objects (device : Device) : List Node :=
  device.node :: device.sets.flatMap ChannelSet.objects

def parts (device : Device) : List Node :=
  device.sets.flatMap ChannelSet.parts

def nodes (device : Device) : List Node :=
  device.objects ++ device.parts

def handles (device : Device) : List Attribute :=
  device.nodes.flatMap Node.handles ++ device.sets.flatMap ChannelSet.registers

variable {record : DeviceRecord}

theorem objects_ofRecord (opening : Opening) (id : Option UInt32) (record : DeviceRecord) :
    (ofRecord opening id record).objects = record.objects.map (Node.ofHead opening) := by
  simp [objects, ofRecord, DeviceRecord.objects, List.flatMap_map, List.map_flatMap,
    ChannelSet.objects_ofRecord]

theorem parts_ofRecord (opening : Opening) (id : Option UInt32) (record : DeviceRecord) :
    (ofRecord opening id record).parts = record.parts.map (Node.ofHead opening) := by
  simp [parts, ofRecord, DeviceRecord.parts, List.flatMap_map, List.map_flatMap,
    ChannelSet.parts_ofRecord]

theorem exists_head_of_mem_nodes (hnode : node ∈ (ofRecord opening id record).nodes) :
    ∃ head ∈ record.objects ++ record.parts, node = Node.ofHead opening head := by
  rw [nodes, objects_ofRecord, parts_ofRecord, ← List.map_append] at hnode
  obtain ⟨head, hhead, rfl⟩ := List.mem_map.mp hnode
  exact ⟨head, hhead, rfl⟩

theorem mem_handles_of_mem_nodes {device : Device} (hnode : node ∈ device.nodes)
    (hhandle : handle ∈ node.handles) : handle ∈ device.handles := by
  apply List.mem_append_left
  exact List.mem_flatMap.mpr ⟨node, hnode, hhandle⟩

end Device

theorem Node.opening_of_mem_handles {head : HeadRecord}
    (hhandle : handle ∈ (ofHead opening head).handles) : handle.opening = opening := by
  rcases List.mem_cons.mp hhandle with rfl | hattribute
  · rfl
  · obtain ⟨path, -, rfl⟩ := List.mem_map.mp hattribute
    rfl

theorem ChannelSet.opening_of_mem_registers {record : ChannelSetRecord}
    (hhandle : handle ∈ (ofRecord opening record).registers) : handle.opening = opening := by
  simp only [registers, ofRecord, List.flatMap_map, List.cons_append, List.nil_append, List.mem_cons,
    List.mem_flatMap, List.not_mem_nil, or_false] at hhandle
  rcases hhandle with rfl | rfl | ⟨channel, -, rfl | rfl | rfl⟩ <;> rfl

theorem Device.opening_of_mem_handles {record : DeviceRecord}
    (hhandle : handle ∈ (ofRecord opening id record).handles) : handle.opening = opening := by
  rcases List.mem_append.mp hhandle with hnodes | hregisters
  · obtain ⟨node, hnode, hhandle⟩ := List.mem_flatMap.mp hnodes
    obtain ⟨head, -, rfl⟩ := exists_head_of_mem_nodes hnode
    exact Node.opening_of_mem_handles hhandle
  · simp only [ofRecord, List.flatMap_map, List.mem_flatMap] at hregisters
    obtain ⟨set, -, hhandle⟩ := hregisters
    exact ChannelSet.opening_of_mem_registers hhandle

end DaqBus

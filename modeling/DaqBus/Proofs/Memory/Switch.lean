import DaqBus.Proofs.Memory.Opening
import DaqBus.Proofs.Memory.Record
import DaqBus.Proofs.Memory.Registers
import DaqBus.Proofs.Tree.Switch

/-!
# Switches of devices in memory

Every node of a device in memory has its switch in its own directory, and every file that can be reached
works as a register.
-/

namespace DaqBus

open Memory

namespace MemoryBus

variable {store : MemoryBus} {path : String} {file : File}

def withReads (reads : Table String Nat) (store : MemoryBus) : MemoryBus :=
  { store with reads }

/-- The store after the file at a path got another content. Reads may have been counted. -/
def Rewritten (path : String) (content : Bytes) (before after : MemoryBus) : Prop :=
  ∃ file reads, before.reach path = .ok file ∧
    after = (before.replaced path file content).withReads reads

theorem reach_replaced (hreach : store.reach path = .ok file) (content : Bytes)
    (reads : Table String Nat) :
    ((store.replaced path file content).withReads reads).reach path = .ok { file with content } := by
  obtain ⟨hfailure, -⟩ := reach_eq_ok_iff.mp hreach
  refine reach_eq_ok_iff.mpr ⟨hfailure, ?_⟩
  exact (Table.find?_insert store.files path path _).trans (if_pos rfl)

theorem isRegister_of_reach (hreach : store.reach path = .ok file) :
    Backend.IsRegister path (fun content after => Rewritten path content store after) store where
  write content := by
    have hwrite : Backend.writeRaw path content store = _ := writeRaw_eq path content store
    rw [hreach] at hwrite
    exact ⟨_, hwrite, file, store.reads, hreach, rfl⟩
  read := by
    rintro content _ ⟨found, reads, hfound, rfl⟩
    let after := (store.replaced path found content).withReads reads
    have hread : Backend.readRaw path Backend.textLimit after = _ :=
      readRaw_eq path Backend.textLimit after
    rw [reach_replaced hfound] at hread
    exact ⟨_, ⟨found, _, hfound, rfl⟩, hread⟩

end MemoryBus

/-- The switch of a node in memory is the file of that name in its directory. -/
theorem Bus.enableSwitch_of_openDevice {bus after : Bus MemoryBus} {name : String}
    {id : Option UInt32} {device : Device} {node : Node}
    (hopen : openDevice name id bus = (.ok device, after)) (hnode : node ∈ device.nodes) :
    node.enableSwitch = { path := s!"{node.base}/enable", opening := device.opening } := by
  obtain ⟨-, -, -, record, blueprint, -, hrecord, rfl⟩ := openDevice_eq_ok hopen
  obtain ⟨head, hhead, rfl⟩ := Device.exists_head_of_mem_nodes hnode
  have henable := (Blueprint.isMade_of_record? hrecord hhead).enable_eq
  show Attribute.mk head.enable _ = _
  rw [henable]
  rfl

end DaqBus

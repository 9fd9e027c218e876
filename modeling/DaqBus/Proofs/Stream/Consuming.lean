import DaqBus.Kernel.Backend
import DaqBus.Proofs.Memory.Waiting

/-!
# Reads use streams up

A read moves one stream forward and leaves the others alone, for the queues in memory and for open
files alike. What it gives is gone from the stream, so only finitely many reads can give something,
and every block that a channel delivers costs its control stream one of them.
-/

namespace DaqBus

namespace ByteStream

variable {σ : Type} [ByteStream σ] {s s' : σ}

theorem readUpTo_of_failed {limit : Nat} {fault : Fault} (hlimit : limit ≠ 0)
    (hread : read limit s = (.error fault, s')) (hfault : fault.isInterrupted = false) :
    readUpTo limit s = (.error fault, s') := by
  rw [readUpTo, if_neg hlimit]
  split <;> rename_i heq <;> rw [hread] at heq <;> cases heq
  rw [dif_neg (by rw [hfault]; decide)]

end ByteStream

namespace FileStream

open ByteStream

theorem read_eq (limit offset : Nat) (content : Bytes) :
    ByteStream.read limit (⟨some content, offset⟩ : FileStream) =
      (.ok ((content.drop offset).take limit),
        ⟨some content, offset + ((content.drop offset).take limit).length⟩) := rfl

/-- A read of an open file up to a limit moves its offset and nothing else. -/
theorem readUpTo_eq (limit offset : Nat) (content : Bytes) :
    readUpTo limit (⟨some content, offset⟩ : FileStream) =
      (.ok ((content.drop offset).take limit),
        ⟨some content, offset + ((content.drop offset).take limit).length⟩) := by
  by_cases hlimit : limit = 0
  · rw [hlimit, readUpTo_zero, List.take_zero, List.length_nil, Nat.add_zero]
  have hread := read_eq limit offset content
  cases htake : (content.drop offset).take limit with
  | nil =>
      rw [htake] at hread
      exact readUpTo_of_ended hlimit hread
  | cons b bs =>
      rw [htake, List.length_cons] at hread
      have hlength : bs.length + 1 = min limit (content.length - offset) := by
        rw [← List.length_drop, ← List.length_take, htake, List.length_cons]
      -- Either the limit is reached or the file ends here, so the second round finds nothing.
      have hrest : readUpTo (limit - (bs.length + 1))
          (⟨some content, offset + (bs.length + 1)⟩ : FileStream) =
            (.ok [], ⟨some content, offset + (bs.length + 1)⟩) := by
        by_cases hleft : limit - (bs.length + 1) = 0
        · rw [hleft, readUpTo_zero]
        · apply readUpTo_of_ended hleft
          have hend : content.drop (offset + (bs.length + 1)) = [] :=
            List.drop_of_length_le (by omega)
          rw [read_eq, hend, List.take_nil, List.length_nil, Nat.add_zero]
      rw [readUpTo_of_chunk hlimit hread, hrest]
      simp only [List.append_nil, List.length_cons]

theorem readUpTo_directory {limit : Nat} (hlimit : limit ≠ 0) (offset : Nat) :
    readUpTo limit (⟨none, offset⟩ : FileStream) =
      (.error (.system .isDirectory), ⟨none, offset⟩) :=
  readUpTo_of_failed hlimit rfl (by decide)

theorem content_readUpTo (limit : Nat) (f : FileStream) :
    (readUpTo limit f).2.content = f.content := by
  obtain ⟨_ | content, offset⟩ := f
  · by_cases hlimit : limit = 0
    · rw [hlimit, readUpTo_zero]
    · rw [readUpTo_directory hlimit]
  · rw [readUpTo_eq]

theorem readsLeft_readUpTo_le (limit : Nat) (f : FileStream) :
    ByteStream.readsLeft (readUpTo limit f).2 ≤ ByteStream.readsLeft f := by
  obtain ⟨_ | content, offset⟩ := f
  · by_cases hlimit : limit = 0
    · exact Nat.le_of_eq (by rw [hlimit, readUpTo_zero])
    · exact Nat.le_of_eq (by rw [readUpTo_directory hlimit])
  · rw [readUpTo_eq]
    show content.length - (offset + _) ≤ content.length - offset
    omega

theorem readsLeft_readUpTo_lt {limit : Nat} {f : FileStream} {b : UInt8} {bs : Bytes}
    (hread : (readUpTo limit f).1 = .ok (b :: bs)) :
    ByteStream.readsLeft (readUpTo limit f).2 < ByteStream.readsLeft f := by
  obtain ⟨_ | content, offset⟩ := f
  · by_cases hlimit : limit = 0
    · rw [hlimit, readUpTo_zero] at hread
      cases hread
    · rw [readUpTo_directory hlimit] at hread
      cases hread
  · rw [readUpTo_eq] at hread ⊢
    have htake : (content.drop offset).take limit = b :: bs := Except.ok.inj hread
    have hlength : bs.length + 1 = min limit (content.length - offset) := by
      rw [← List.length_drop, ← List.length_take, htake, List.length_cons]
    show content.length - (offset + _) < content.length - offset
    rw [htake, List.length_cons]
    omega

end FileStream

namespace Lens

variable {S σ α : Type}

theorem ok_of_run {lens : Lens S σ} {operation : σ → Except Fault α × σ} {state : S} {value : α}
    (hrun : (lens.run operation state).1 = .ok value) : (operation (lens.view state)).1 = .ok value := by
  rw [run_eq] at hrun
  generalize operation (lens.view state) = result at hrun
  obtain ⟨_ | found, stream⟩ := result
  · cases hrun
  · cases hrun
    rfl

end Lens

namespace Queue

open ByteStream

theorem readsLeft_readUpTo_le (limit : Nat) (q : Queue) :
    readsLeft (readUpTo limit q).2 ≤ readsLeft q := by
  rw [readUpTo_eq]
  show (q.bytes.drop limit).length ≤ q.bytes.length
  rw [List.length_drop]
  exact Nat.sub_le _ _

theorem readsLeft_readUpTo_lt {limit : Nat} {q : Queue} {b : UInt8} {bs : Bytes}
    (hread : (readUpTo limit q).1 = .ok (b :: bs)) : readsLeft (readUpTo limit q).2 < readsLeft q := by
  rw [readUpTo_eq] at hread ⊢
  have hlength := congrArg List.length (Except.ok.inj hread)
  rw [List.length_take, List.length_cons] at hlength
  show (q.bytes.drop limit).length < q.bytes.length
  rw [List.length_drop]
  omega

end Queue

/-! ### Backends -/

/-- A read acts on its own stream alone, and what it gives is gone from there. -/
class ReadsConsume (S : Type) [Backend S] : Prop where
  view_readUpTo : ∀ (id : StreamId) (limit : Nat) (store : S),
    (Backend.lens id).view ((Backend.lens (S := S) id).readUpTo limit store).2 =
      (ByteStream.readUpTo limit ((Backend.lens id).view store)).2
  view_readUpTo_ne : ∀ {id other : StreamId}, id ≠ other → ∀ (limit : Nat) (store : S),
    (Backend.lens other).view ((Backend.lens (S := S) id).readUpTo limit store).2 =
      (Backend.lens other).view store
  readsLeft_le : ∀ (limit : Nat) (stream : Backend.Stream S),
    ByteStream.readsLeft (ByteStream.readUpTo limit stream).2 ≤ ByteStream.readsLeft stream
  readsLeft_lt : ∀ {limit : Nat} {stream : Backend.Stream S} {b : UInt8} {bs : Bytes},
    (ByteStream.readUpTo limit stream).1 = .ok (b :: bs) →
      ByteStream.readsLeft (ByteStream.readUpTo limit stream).2 < ByteStream.readsLeft stream

namespace MemoryBus

theorem view_readUpTo (id : StreamId) (limit : Nat) (bus : MemoryBus) :
    (queue id).view ((queue id).readUpTo limit bus).2 =
      (ByteStream.readUpTo limit ((queue id).view bus)).2 := by
  rw [Lens.readUpTo_queue, Queue.readUpTo_eq]
  by_cases hid : id < bus.queues.length
  · exact view_put_self hid _
  · -- A number without a queue reads as an empty one, and nothing can be put back.
    have hend := Nat.not_lt.mp hid
    have hempty : (queue id).view bus = {} := by
      show (bus.queues[id]?).getD {} = {}
      rw [List.getElem?_eq_none hend, Option.getD_none]
    have hput : (queue id).put ⟨((queue id).view bus).bytes.drop limit⟩ bus = bus := by
      show { bus with queues := bus.queues.set id _ } = bus
      rw [List.set_eq_of_length_le hend]
    show (queue id).view ((queue id).put ⟨((queue id).view bus).bytes.drop limit⟩ bus) = _
    rw [hput, hempty, List.drop_nil]

instance : ReadsConsume MemoryBus where
  view_readUpTo := view_readUpTo
  view_readUpTo_ne {id other} hne limit bus := by
    show (queue other).view ((queue id).readUpTo limit bus).2 = (queue other).view bus
    rw [Lens.readUpTo_queue, view_put_ne hne]
  readsLeft_le := Queue.readsLeft_readUpTo_le
  readsLeft_lt := Queue.readsLeft_readUpTo_lt

end MemoryBus

namespace KernelBus

variable {bus : KernelBus} {id : StreamId} {handle : Handle}

theorem setContent_self {fs : FileSystem} {node : NodeId} {content : Bytes} {mode : UInt32}
    (hnode : fs.node? node = some (.file content mode)) : fs.setContent node content = fs := by
  obtain ⟨hlt, hget⟩ := List.getElem?_eq_some_iff.mp hnode
  rw [FileSystem.setContent, hnode]
  show { fs with nodes := fs.nodes.set node (.file content mode) } = fs
  rw [← hget, List.set_getElem_self]

theorem view_of_handle (hid : bus.handles[id]? = some handle) :
    (lens id).view bus = bus.stream handle := by
  simp only [lens, hid]

theorem view_of_none (hid : bus.handles[id]? = none) : (lens id).view bus = ⟨some [], 0⟩ := by
  simp only [lens, hid]

theorem put_of_none (hid : bus.handles[id]? = none) (opened : FileStream) :
    (lens id).put opened bus = bus := by
  simp only [lens, hid]

/-- Putting back what was read from leaves the files as they are. -/
theorem put_of_handle (hid : bus.handles[id]? = some handle) {opened : FileStream}
    (hcontent : opened.content = (bus.stream handle).content) :
    (lens id).put opened bus =
      { bus with handles := bus.handles.set id { handle with offset := opened.offset } } := by
  rw [stream] at hcontent
  simp only [lens, hid]
  cases hnode : bus.files.node? handle.node with
  | none => simp only [hcontent, hnode]
  | some node =>
      cases node with
      | file content mode => simp only [hcontent, hnode, setContent_self hnode]
      | directory entries mode => simp only [hcontent, hnode]
      | link target => simp only [hcontent, hnode]

theorem stream_with_offset (bus : KernelBus) (handles : List Handle) (handle : Handle) (offset : Nat) :
    ({ bus with handles } : KernelBus).stream { handle with offset } =
      ⟨(bus.stream handle).content, offset⟩ := by
  rw [stream, stream]
  cases bus.files.node? handle.node with
  | none => rfl
  | some node => cases node <;> rfl

theorem readUpTo_eq (hid : bus.handles[id]? = some handle) (limit : Nat) :
    ((lens id).readUpTo limit bus).2 =
      { bus with
        handles := bus.handles.set id { handle with
          offset := (ByteStream.readUpTo limit (bus.stream handle)).2.offset } } := by
  rw [Lens.readUpTo, Lens.run_eq, view_of_handle hid,
    put_of_handle hid (FileStream.content_readUpTo limit _)]

theorem view_readUpTo (id : StreamId) (limit : Nat) (bus : KernelBus) :
    (lens id).view ((lens id).readUpTo limit bus).2 =
      (ByteStream.readUpTo limit ((lens id).view bus)).2 := by
  cases hid : bus.handles[id]? with
  | none =>
      rw [Lens.readUpTo, Lens.run_eq, put_of_none hid, view_of_none hid, FileStream.readUpTo_eq,
        List.drop_nil, List.take_nil]
      rfl
  | some handle =>
      have hlt := (List.getElem?_eq_some_iff.mp hid).1
      have hcontent := FileStream.content_readUpTo limit (bus.stream handle)
      rw [readUpTo_eq hid, view_of_handle (List.getElem?_set_self hlt), stream_with_offset,
        view_of_handle hid, ← hcontent]

instance : ReadsConsume KernelBus where
  view_readUpTo := view_readUpTo
  view_readUpTo_ne {id other} hne limit bus := by
    show (lens other).view ((lens id).readUpTo limit bus).2 = (lens other).view bus
    cases hid : bus.handles[id]? with
    | none => rw [Lens.readUpTo, Lens.run_eq, put_of_none hid]
    | some handle =>
        rw [readUpTo_eq hid]
        simp only [lens, List.getElem?_set_ne hne]
        rfl
  readsLeft_le := FileStream.readsLeft_readUpTo_le
  readsLeft_lt := FileStream.readsLeft_readUpTo_lt

end KernelBus

namespace Backend

variable {S : Type} [Backend S] [ReadsConsume S]

theorem readsLeft_readUpTo_le (id other : StreamId) (limit : Nat) (store : S) :
    ByteStream.readsLeft ((lens other).view ((lens (S := S) id).readUpTo limit store).2) ≤
      ByteStream.readsLeft ((lens other).view store) := by
  by_cases heq : id = other
  · subst heq
    rw [ReadsConsume.view_readUpTo]
    exact ReadsConsume.readsLeft_le limit _
  · exact Nat.le_of_eq (by rw [ReadsConsume.view_readUpTo_ne heq])

omit [ReadsConsume S] in
/-- A transfer reads neither stream, or the record alone, or a whole record and then a payload. -/
theorem readBlock_cases (streams : ChannelStreams) (store : S) :
    (∃ code, readBlock streams store = (.error code, store)) ∨
      (∃ code, readBlock streams store =
        (.error code, ((lens streams.control).readUpTo Control.recordSize store).2)) ∨
      ∃ control limit,
        ((lens (S := S) streams.control).readUpTo Control.recordSize store).1 = .ok control ∧
        control.length = Control.recordSize ∧
        (readBlock streams store).2 = ((lens streams.data).readUpTo limit
          ((lens streams.control).readUpTo Control.recordSize store).2).2 := by
  by_cases hinput : (lane (S := S) streams).direction ≠ .input
  · left
    rw [readBlock, Lane.readBlock, if_pos hinput]
    exact ⟨_, Effect.bind_of_error (Effect.throw_apply _ _)⟩
  · right
    rw [readBlock_of_input (Decidable.not_not.mp hinput)]
    rcases (lens streams.control).readUpTo Control.recordSize store with ⟨code | control, next⟩
    · exact .inl ⟨code, rfl⟩
    · dsimp only
      by_cases husable :
          control.length = Control.recordSize ∧ Control.isSampleSize (Lane.sampleSize control)
      · rw [if_pos husable]
        right
        refine ⟨control, RawBlock.announced control, rfl, husable.1, ?_⟩
        rcases (lens streams.data).readUpTo (RawBlock.announced control) next with ⟨_ | _, last⟩ <;> rfl
      · rw [if_neg husable]
        exact .inl ⟨_, rfl⟩

theorem readsLeft_readBlock_le (streams : ChannelStreams) (other : StreamId) (store : S) :
    ByteStream.readsLeft ((lens other).view (readBlock streams store).2) ≤
      ByteStream.readsLeft ((lens other).view store) := by
  have hcontrol := readsLeft_readUpTo_le streams.control other Control.recordSize store
  rcases readBlock_cases streams store with ⟨code, h⟩ | ⟨code, h⟩ | ⟨control, limit, -, -, h⟩
  · exact Nat.le_of_eq (by rw [h])
  · rw [h]
    exact hcontrol
  · rw [h]
    exact Nat.le_trans (readsLeft_readUpTo_le streams.data other limit _) hcontrol

/-- A delivered block costs the control stream at least one read. -/
theorem readsLeft_readBlock_lt {streams : ChannelStreams} {store : S} {raw : RawBlock}
    (hread : (readBlock streams store).1 = .ok raw) :
    ByteStream.readsLeft ((lens streams.control).view (readBlock streams store).2) <
      ByteStream.readsLeft ((lens streams.control).view store) := by
  rcases readBlock_cases streams store with ⟨code, h⟩ | ⟨code, h⟩ | ⟨control, limit, hok, hlength, h⟩
  · rw [h] at hread
    cases hread
  · rw [h] at hread
    cases hread
  · have hdata := readsLeft_readUpTo_le streams.data streams.control limit
      ((lens streams.control).readUpTo Control.recordSize store).2
    rw [h]
    apply Nat.lt_of_le_of_lt hdata
    rw [ReadsConsume.view_readUpTo]
    cases control with
    | nil => cases hlength
    | cons b bs => exact ReadsConsume.readsLeft_lt (Lens.ok_of_run hok)

end Backend

end DaqBus

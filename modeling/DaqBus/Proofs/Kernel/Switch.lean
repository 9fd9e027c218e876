import DaqBus.Proofs.Files.Content
import DaqBus.Proofs.Kernel.Heads
import DaqBus.Proofs.Tree.Switch

/-!
# Switches of devices that the kernel shows

A file that a path leads to works as a register, and writing to it changes no other file. The empty path
of a part's switch leads nowhere, whatever files there are.
-/

namespace DaqBus.KernelBus

variable {store : KernelBus} {path : String}

/-- The store after the file that a path leads to got another content. -/
def Rewritten (path : String) (content : Bytes) (before after : KernelBus) : Prop :=
  ∃ place held mode, before.files.resolve (RawPath.ofText path) = .ok place ∧
    before.files.node? place.node = some (.file held mode) ∧
    after = { before with files := { before.files with
      nodes := before.files.nodes.set place.node (.file content mode) } }

theorem ask_eq {α : Type} (question : FileSystem → Except Errno α) (store : KernelBus) :
    ask question store = (question store.files, store) := by
  unfold ask
  rw [Effect.bind_of_ok (Effect.get_apply store)]
  cases question store.files <;> rfl

theorem readRaw_eq (path : String) (limit : Nat) (store : KernelBus) :
    Backend.readRaw path limit store = (store.files.readBytes (RawPath.ofText path) limit, store) :=
  ask_eq _ store

theorem writeRaw_eq (path : String) (content : Bytes) (store : KernelBus) :
    Backend.writeRaw path content store =
      match store.files.writeBytes (RawPath.ofText path) content with
      | .ok files => (.ok (), { store with files })
      | .error code => (.error code, store) := by
  show writeRaw path content store = _
  unfold writeRaw
  rw [Effect.bind_apply, ask_eq]
  cases store.files.writeBytes (RawPath.ofText path) content <;> rfl

variable {place : Place} {held : Bytes} {mode : UInt32} {files : FileSystem}

theorem writeBytes_of_file {path : RawPath} (hplace : files.resolve path = .ok place)
    (hfile : files.node? place.node = some (.file held mode)) (content : Bytes) :
    files.writeBytes path content = .ok (files.setContent place.node content) := by
  have hdirectory : files.isDirectory path = false := by
    simp only [FileSystem.isDirectory, hplace, FileSystem.entries?, hfile, Option.isSome_none]
  unfold FileSystem.writeBytes
  rw [openNode_write, hplace]
  simp only [hdirectory]
  rfl

/-- What has been written is read, since the path still leads to the same file. -/
theorem readBytes_setContent {path : RawPath} (hplace : files.resolve path = .ok place)
    (hfile : files.node? place.node = some (.file held mode)) (content : Bytes) :
    (files.setContent place.node content).readBytes path Backend.textLimit =
      .ok (content.take Backend.textLimit) := by
  have hnode := FileSystem.node?_setContent hfile content place.node
  rw [if_pos rfl] at hnode
  rw [readBytes_eq _ _ (by decide), (FileSystem.sameTree_setContent hfile content).resolve_eq, hplace]
  dsimp only
  rw [hnode]

theorem isRegister_of_isReadable (hreadable : IsReadable store.files path) :
    Backend.IsRegister path (fun content after => Rewritten path content store after) store where
  write content := by
    obtain ⟨place, held, mode, hplace, hfile⟩ := hreadable
    have hwrite := writeRaw_eq path content store
    rw [writeBytes_of_file hplace hfile, FileSystem.setContent_of_file hfile] at hwrite
    exact ⟨_, hwrite, place, held, mode, hplace, hfile, rfl⟩
  read := by
    rintro content _ ⟨place, held, mode, hplace, hfile, rfl⟩
    rw [← FileSystem.setContent_of_file hfile, readRaw_eq, readBytes_setContent hplace hfile,
      FileSystem.setContent_of_file hfile]
    exact ⟨_, ⟨place, held, mode, hplace, hfile, rfl⟩, rfl⟩

theorem resolve_empty (files : FileSystem) : files.resolve (RawPath.ofText "") = .error .noEntry := by
  rw [FileSystem.resolve, FileSystem.follow, if_neg (by decide), if_pos (by decide)]
  rfl

theorem switchFails_of_empty {node : Node} {host : Bus KernelBus}
    (hopen : host.isClosed node.enableSwitch.opening.number = false)
    (hempty : node.enableSwitch.path = "") : node.SwitchFails .noEntry host := by
  apply Node.switchFails_of_error hopen
  · intro content
    have hbytes : host.store.files.writeBytes (RawPath.ofText "") content = .error .noEntry := by
      unfold FileSystem.writeBytes
      rw [openNode_write, resolve_empty]
      rfl
    rw [hempty, writeRaw_eq, hbytes]
  · rw [hempty, readRaw_eq, readBytes_eq _ _ (by decide), resolve_empty]

end DaqBus.KernelBus

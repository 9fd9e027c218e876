import DaqBus.Memory.Backend
import DaqBus.Proofs.Effect

/-!
# Attribute files in memory

What the store does for an attribute is told by one look at the path: either a failure is set up for
it, or the file is missing, and then nothing happens; or the file is there, and then a read adds to the
count of the path and a write replaces the content.
-/

namespace DaqBus.MemoryBus

open Memory

variable {bus : MemoryBus} {path other : String} {file : File}

/-- What an access to a path meets. -/
def reach (bus : MemoryBus) (path : String) : Except Errno File :=
  match bus.failures.find? path with
  | some code => .error code
  | none =>
    match bus.files.find? path with
    | some file => .ok file
    | none => .error .noEntry

def counted (path : String) (bus : MemoryBus) : MemoryBus :=
  { bus with reads := bus.reads.insert path (bus.readCount path + 1) }

def replaced (path : String) (file : File) (content : Bytes) (bus : MemoryBus) : MemoryBus :=
  { bus with files := bus.files.insert path { file with content } }

theorem reach_eq_ok_iff :
    bus.reach path = .ok file ↔
      bus.failures.find? path = none ∧ bus.files.find? path = some file := by
  rw [reach]
  cases bus.failures.find? path with
  | some code => simp
  | none => cases bus.files.find? path <;> simp

theorem locate_eq (path : String) (bus : MemoryBus) : locate path bus = (bus.reach path, bus) := by
  unfold locate check reach
  simp only [Effect.bind_apply, Effect.get_apply]
  cases bus.failures.find? path with
  | some code => rfl
  | none =>
      simp only [Effect.pure_apply]
      cases bus.files.find? path with
      | none => rfl
      | some file => rfl

theorem readRaw_eq (path : String) (limit : Nat) (bus : MemoryBus) :
    readRaw path limit bus =
      match bus.reach path with
      | .ok file => (.ok (file.content.take limit), bus.counted path)
      | .error code => (.error code, bus) := by
  unfold readRaw
  rw [Effect.bind_apply, locate_eq]
  cases bus.reach path <;> rfl

theorem writeRaw_eq (path : String) (content : Bytes) (bus : MemoryBus) :
    writeRaw path content bus =
      match bus.reach path with
      | .ok file => (.ok (), bus.replaced path file content)
      | .error code => (.error code, bus) := by
  unfold writeRaw
  rw [Effect.bind_apply, locate_eq]
  cases bus.reach path <;> rfl

theorem mode_eq (path : String) (bus : MemoryBus) :
    mode path bus = ((bus.reach path).map File.mode, bus) := by
  unfold mode
  rw [Effect.bind_apply, locate_eq]
  cases bus.reach path <;> rfl

end DaqBus.MemoryBus

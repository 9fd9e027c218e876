import DaqBus.Proofs.Memory.Registers
import DaqBus.Proofs.Tree.Access

/-!
# Operations on a store in memory

One equation tells all that an operation does: a handle that is over refuses it, a path that cannot be
reached fails it and nothing changes, and otherwise the file answers it.
-/

namespace DaqBus

open Memory

variable {bus : Bus MemoryBus}

namespace Attribute

variable {a : Attribute}

theorem read_eq (hopen : bus.isClosed a.opening.number = false) :
    a.read bus =
      match bus.store.reach a.path with
      | .ok file =>
        match numberOf? file.content with
        | some value => (.ok value, { bus with
            store := bus.store.counted a.path
            log := bus.log ++ [.attributeRead a.path value] })
        | none => (.error (a.refusal .invalidArgument), { bus with
            store := bus.store.counted a.path
            log := bus.log ++ [.notDecimal a.path (textOf file.content)] })
      | .error code => (.error (a.refusal code), bus) := by
  have hraw : Backend.readRaw a.path Backend.textLimit bus.store = _ :=
    MemoryBus.readRaw_eq a.path Backend.textLimit bus.store
  cases hreach : bus.store.reach a.path with
  | error code =>
      rw [hreach] at hraw
      exact read_of_error hopen hraw
  | ok file =>
      rw [hreach] at hraw
      refine (read_of_content hopen hraw).trans ?_
      cases hnumber : numberOf? file.content <;> simp only [hnumber]

theorem put_eq (hopen : bus.isClosed a.opening.number = false) (content : Bytes) (event : Event) :
    (do
      a.access (Bus.onStore (Backend.writeRaw a.path content))
      Bus.emit event : BusM MemoryBus BusError Unit) bus =
      match bus.store.reach a.path with
      | .ok file => (.ok (), { bus with
          store := bus.store.replaced a.path file content
          log := bus.log ++ [event] })
      | .error code => (.error (a.refusal code), bus) := by
  have hraw : Backend.writeRaw a.path content bus.store = _ :=
    MemoryBus.writeRaw_eq a.path content bus.store
  rw [put_of_open hopen, hraw]
  cases bus.store.reach a.path <;> rfl

theorem write_eq (hopen : bus.isClosed a.opening.number = false) (value : UInt32) :
    a.write value bus =
      match bus.store.reach a.path with
      | .ok file => (.ok (), { bus with
          store := bus.store.replaced a.path file (Text.Utf8.encode (toString value.toNat))
          log := bus.log ++ [.numberWritten a.path value] })
      | .error code => (.error (a.refusal code), bus) :=
  put_eq hopen _ _

theorem writeText_eq (hopen : bus.isClosed a.opening.number = false) (text : String) :
    a.writeText text bus =
      match bus.store.reach a.path with
      | .ok file => (.ok (), { bus with
          store := bus.store.replaced a.path file (Text.Utf8.encode text)
          log := bus.log ++ [.textWritten a.path text] })
      | .error code => (.error (a.refusal code), bus) :=
  put_eq hopen _ _

theorem readText_eq (hopen : bus.isClosed a.opening.number = false) :
    a.readText bus =
      match bus.store.reach a.path with
      | .ok file => (.ok (textOf file.content), { bus with store := bus.store.counted a.path })
      | .error code => (.error (a.refusal code), bus) := by
  have hraw : Backend.readRaw a.path Backend.textLimit bus.store = _ :=
    MemoryBus.readRaw_eq a.path Backend.textLimit bus.store
  unfold readText
  rw [access_onStore hopen, Backend.readText, Effect.bind_apply, hraw]
  cases bus.store.reach a.path <;> rfl

theorem permissions_eq (hopen : bus.isClosed a.opening.number = false) :
    a.permissions bus =
      match bus.store.reach a.path with
      | .ok file => (.ok (Permission.ofMode file.mode), bus)
      | .error code => (.error (a.refusal code), bus) := by
  have hmode : Backend.mode a.path bus.store = _ := MemoryBus.mode_eq a.path bus.store
  unfold permissions
  rw [Effect.bind_apply, access_onStore hopen, hmode]
  cases bus.store.reach a.path <;> rfl

end Attribute

namespace Access

variable {access : Access}

/-- The store after the operation met the file. -/
def effect (access : Access) (file : File) (store : MemoryBus) : MemoryBus :=
  match access.written? with
  | some content => store.replaced access.path file content
  | none => if access.isRead then store.counted access.path else store

/-- **What an operation does.** -/
theorem run_eq (hopen : bus.isClosed access.opening.number = false) :
    access.run bus =
      match bus.store.reach access.path with
      | .ok file => ((access.answer file.content file.mode).mapError access.handle.refusal, { bus with
          store := access.effect file bus.store
          log := bus.log ++ access.events file.content })
      | .error code => (.error (access.handle.refusal code), bus) := by
  unfold path
  unfold opening at hopen
  cases access with
  | read a =>
      dsimp only [handle] at hopen ⊢
      rw [run, Effect.map_apply, Attribute.read_eq hopen]
      cases bus.store.reach a.path with
      | error code => rfl
      | ok file =>
          simp only [answer, events]
          delta events.reading
          cases Attribute.numberOf? file.content <;> rfl
  | isEnabled node =>
      dsimp only [handle] at hopen ⊢
      rw [run, Effect.map_apply, Node.isEnabled, Effect.bind_apply, Attribute.read_eq hopen]
      cases bus.store.reach node.enableSwitch.path with
      | error code => rfl
      | ok file =>
          simp only [answer, events]
          delta events.reading
          cases Attribute.numberOf? file.content <;> rfl
  | write a value =>
      dsimp only [handle] at hopen ⊢
      rw [run, Effect.map_apply, Attribute.write_eq hopen]
      cases bus.store.reach a.path <;> rfl
  | readText a =>
      dsimp only [handle] at hopen ⊢
      rw [run, Effect.map_apply, Attribute.readText_eq hopen]
      cases bus.store.reach a.path with
      | error code => rfl
      | ok file =>
          simp only [events, List.append_nil]
          rfl
  | writeText a text =>
      dsimp only [handle] at hopen ⊢
      rw [run, Effect.map_apply, Attribute.writeText_eq hopen]
      cases bus.store.reach a.path <;> rfl
  | permissions a =>
      dsimp only [handle] at hopen ⊢
      rw [run, Effect.map_apply, Attribute.permissions_eq hopen]
      cases bus.store.reach a.path with
      | error code => rfl
      | ok file =>
          simp only [events, List.append_nil]
          rfl
  | enable node =>
      dsimp only [handle] at hopen ⊢
      rw [run, Effect.map_apply, Node.enable, Attribute.writeText_eq hopen]
      cases bus.store.reach node.enableSwitch.path <;> rfl
  | disable node =>
      dsimp only [handle] at hopen ⊢
      rw [run, Effect.map_apply, Node.disable, Attribute.writeText_eq hopen]
      cases bus.store.reach node.enableSwitch.path <;> rfl

/-- The file that the operation meets, if its handle is not over and the path can be reached. -/
def served? (access : Access) (bus : Bus MemoryBus) : Option File :=
  if bus.isClosed access.opening.number then none else (bus.store.reach access.path).toOption

theorem served?_eq_some_iff {file : File} :
    access.served? bus = some file ↔
      bus.isClosed access.opening.number = false ∧ bus.store.reach access.path = .ok file := by
  rw [served?]
  cases bus.isClosed access.opening.number with
  | true => simp
  | false => cases bus.store.reach access.path <;> simp [Except.toOption]

theorem run_of_served {file : File} (hserved : access.served? bus = some file) :
    access.run bus = ((access.answer file.content file.mode).mapError access.handle.refusal, { bus with
      store := access.effect file bus.store
      log := bus.log ++ access.events file.content }) := by
  obtain ⟨hopen, hreach⟩ := served?_eq_some_iff.mp hserved
  rw [run_eq hopen, hreach]

theorem run_of_unserved (hserved : access.served? bus = none) :
    ∃ failure, access.run bus = (.error failure, bus) := by
  by_cases hclosed : bus.isClosed access.opening.number = true
  · exact ⟨_, run_of_closed hclosed⟩
  have hopen : bus.isClosed access.opening.number = false := by simpa using hclosed
  cases hreach : bus.store.reach access.path with
  | error code =>
      rw [run_eq hopen, hreach]
      exact ⟨_, rfl⟩
  | ok file =>
      rw [served?_eq_some_iff.mpr ⟨hopen, hreach⟩] at hserved
      cases hserved

theorem exists_served_of_ok {answer : Answer} (hok : (access.run bus).1 = .ok answer) :
    ∃ file, access.served? bus = some file ∧ access.answer file.content file.mode = .ok answer := by
  cases hserved : access.served? bus with
  | none =>
      obtain ⟨failure, hrun⟩ := run_of_unserved hserved
      rw [hrun] at hok
      cases hok
  | some file =>
      refine ⟨file, rfl, ?_⟩
      rw [run_of_served hserved] at hok
      cases hanswer : access.answer file.content file.mode with
      | error code =>
          rw [hanswer] at hok
          cases hok
      | ok found =>
          rw [hanswer] at hok
          cases hok
          rfl

theorem released_effect (access : Access) (file : File) (store : MemoryBus) :
    (access.effect file store).released = store.released := by
  unfold effect
  cases access.written? with
  | some content => rfl
  | none =>
      dsimp only
      split <;> rfl

theorem isRead_of_written {content : Bytes} (hwritten : access.written? = some content) :
    access.isRead = false := by
  cases access with
  | write | writeText | enable | disable => rfl
  | read | readText | permissions | isEnabled => cases hwritten

theorem answer_of_written {content : Bytes} (hwritten : access.written? = some content)
    (held : Bytes) (mode : UInt32) : access.answer held mode = .ok .done := by
  cases access with
  | write | writeText | enable | disable => rfl
  | read | readText | permissions | isEnabled => cases hwritten

theorem files_effect (access : Access) (file : File) (store : MemoryBus) (path : String) :
    (access.effect file store).files.find? path =
      if path = access.path then
        (access.written?.map fun content => { file with content }).or (store.files.find? path)
      else store.files.find? path := by
  unfold effect
  cases access.written? with
  | some content => exact Table.find?_insert store.files access.path path { file with content }
  | none =>
      dsimp only
      split <;> simp [MemoryBus.counted]

theorem readCount_effect (access : Access) (file : File) (store : MemoryBus) (path : String) :
    (access.effect file store).readCount path =
      store.readCount path + if access.isRead ∧ access.path = path then 1 else 0 := by
  unfold effect
  cases hwritten : access.written? with
  | some content => simp [isRead_of_written hwritten, MemoryBus.replaced, MemoryBus.readCount]
  | none =>
      cases hread : access.isRead with
      | false => simp
      | true =>
          simp only [MemoryBus.counted, MemoryBus.readCount, Table.find?_insert, if_true, true_and]
          by_cases hpath : access.path = path
          · simp [hpath]
          · simp [hpath, Ne.symm hpath]

end Access

end DaqBus

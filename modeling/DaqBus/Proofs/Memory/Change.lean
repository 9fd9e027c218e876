import DaqBus.Memory.Basic

/-!
# Changes to a store in memory

What a store is told from outside, past all handles: devices and files, failures and traffic. None of it
counts as a read or as a release, and only new content for a path changes what its file holds.
-/

namespace DaqBus

open Memory

namespace MemoryBus

/-- The store with other accounts of what was read and what was released. -/
def withAccounts (reads : Table String Nat) (released : List String) (store : MemoryBus) : MemoryBus :=
  { store with reads, released }

inductive Change
  | addDevice (device : Blueprint)
  | setFile (path : String) (content : Bytes)
  | setMode (path : String) (mode : UInt32)
  | failPath (path : String) (code : Errno)
  | clearFailure (path : String)
  | failOpen (code : Option Errno)
  | setModules (kind : ModuleKind) (names : List String)
  | push (channel : String) (block : RawBlock)
  | drain (channel : String)
deriving DecidableEq, Repr

namespace Change

def apply (store : MemoryBus) : Change → MemoryBus
  | addDevice device => store.addDevice device
  | setFile path content => store.setFile path content
  | setMode path mode => store.setMode path mode
  | failPath path code => store.failPath path code
  | clearFailure path => store.clearFailure path
  | failOpen code => { store with openFailure := code }
  | setModules kind names => store.setModules kind names
  | push channel block => store.push channel block
  | drain channel => (store.drain channel).2

/-- The content that a change gives to a path. -/
def content? (path : String) : Change → Option Bytes
  | addDevice device => device.files.reverse.lookup path
  | setFile other content => if other = path then some content else none
  | _ => none

end Change

/-! ### Files -/

theorem file?_setFile (store : MemoryBus) (path other : String) (content : Bytes) :
    (store.setFile path content).file? other =
      if path = other then some content else store.file? other := by
  rw [setFile, file?, file?, Table.find?_insert]
  by_cases hpath : path = other
  · simp [hpath]
  · simp [hpath, Ne.symm hpath]

theorem file?_setMode (store : MemoryBus) (path other : String) (mode : UInt32) :
    (store.setMode path mode).file? other = store.file? other := by
  unfold setMode
  cases hfind : store.files.find? path with
  | none => rfl
  | some file =>
      rw [file?, file?, Table.find?_insert]
      by_cases hpath : other = path
      · simp [hpath, hfind]
      · simp [hpath]

theorem file?_foldl_setFile (files : List (String × Bytes)) (store : MemoryBus) (path : String) :
    (files.foldl (fun bus file => bus.setFile file.1 file.2) store).file? path =
      (files.reverse.lookup path).or (store.file? path) := by
  induction files generalizing store with
  | nil => rfl
  | cons file files ih =>
      have hlast : ([file].lookup path).or (store.file? path) =
          (store.setFile file.1 file.2).file? path := by
        rw [file?_setFile, List.lookup_cons]
        by_cases hpath : file.1 = path
        · simp [hpath]
        · have hbeq : (path == file.1) = false := by simpa using Ne.symm hpath
          simp [hpath, hbeq]
      rw [List.foldl_cons, ih, List.reverse_cons, List.lookup_append, Option.or_assoc, hlast]

theorem files_foldl_addStreams (channels : List String) (store : MemoryBus) :
    (channels.foldl addStreams store).files = store.files := by
  induction channels generalizing store with
  | nil => rfl
  | cons channel channels ih => exact ih (store.addStreams channel)

theorem file?_addDevice (store : MemoryBus) (device : Blueprint) (path : String) :
    (store.addDevice device).file? path =
      (device.files.reverse.lookup path).or (store.file? path) := by
  have hfiles : (store.addDevice device).files = _ := files_foldl_addStreams device.channelNames _
  rw [file?, hfiles]
  exact file?_foldl_setFile device.files store path

theorem files_push (store : MemoryBus) (channel : String) (block : RawBlock) :
    (store.push channel block).files = store.files := by
  unfold push
  split <;> rfl

theorem files_drain (store : MemoryBus) (channel : String) :
    (store.drain channel).2.files = store.files := by
  unfold drain
  split <;> rfl

theorem Change.file?_apply (store : MemoryBus) (change : Change) (path : String) :
    (change.apply store).file? path = (change.content? path).or (store.file? path) := by
  cases change with
  | addDevice device => exact file?_addDevice store device path
  | setFile other content =>
      rw [apply, file?_setFile, content?]
      by_cases hpath : other = path <;> simp [hpath]
  | setMode other mode => exact file?_setMode store other path mode
  | push channel block =>
      rw [apply, file?, files_push]
      rfl
  | drain channel =>
      rw [apply, file?, files_drain]
      rfl
  | failPath | clearFailure | failOpen | setModules => rfl

/-! ### Accounts -/

theorem addDevice_withAccounts (reads : Table String Nat) (released : List String)
    (store : MemoryBus) (device : Blueprint) :
    (store.withAccounts reads released).addDevice device =
      (store.addDevice device).withAccounts reads released := by
  have hfiles : device.files.foldl (fun bus file => bus.setFile file.1 file.2)
        (store.withAccounts reads released) =
      (device.files.foldl (fun bus file => bus.setFile file.1 file.2) store).withAccounts reads
        released :=
    List.foldl_hom (withAccounts reads released) fun _ _ => rfl
  have hstreams (files : MemoryBus) :
      device.channelNames.foldl addStreams (files.withAccounts reads released) =
        (device.channelNames.foldl addStreams files).withAccounts reads released :=
    List.foldl_hom (withAccounts reads released) fun _ _ => rfl
  simp only [addDevice, hfiles, hstreams]
  rfl

/-- A change neither looks at the accounts nor touches them. -/
theorem Change.apply_withAccounts (reads : Table String Nat) (released : List String)
    (store : MemoryBus) (change : Change) :
    change.apply (store.withAccounts reads released) =
      (change.apply store).withAccounts reads released := by
  cases change with
  | addDevice device => exact addDevice_withAccounts reads released store device
  | setMode path mode =>
      simp only [apply, MemoryBus.setMode, withAccounts]
      cases store.files.find? path <;> rfl
  | push channel block =>
      simp only [apply, MemoryBus.push, withAccounts]
      cases store.streams.find? channel <;> rfl
  | drain channel =>
      simp only [apply, MemoryBus.drain, withAccounts]
      cases store.streams.find? channel <;> rfl
  | setFile | failPath | clearFailure | failOpen | setModules => rfl

theorem Change.apply_eq_withAccounts (store : MemoryBus) (change : Change) :
    change.apply store = (change.apply store).withAccounts store.reads store.released :=
  change.apply_withAccounts store.reads store.released store

theorem Change.readCount_apply (store : MemoryBus) (change : Change) (path : String) :
    (change.apply store).readCount path = store.readCount path := by
  rw [change.apply_eq_withAccounts]
  rfl

theorem Change.released_apply (store : MemoryBus) (change : Change) :
    (change.apply store).released = store.released := by
  rw [change.apply_eq_withAccounts]
  rfl

end MemoryBus

end DaqBus

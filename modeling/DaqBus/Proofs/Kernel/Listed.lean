import DaqBus.Proofs.Kernel.Opening
import DaqBus.Proofs.Text.Numeral

/-!
# Which of the devices that open are listed

The key of a device is added to the path of the devices directory as it is. As long as it is the name of
an entry, a device that opens is one of those listed there. Any other key is a path of its own, and what
it opens need not be on the bus at all.
-/

namespace DaqBus

/-! ### Names of entries -/

namespace Path

/-- A name that an entry of a directory can have. -/
structure IsEntryName (name : String) : Prop where
  ne_empty : name ≠ ""
  no_slash : '/' ∉ name.toList
  ne_here : name ≠ "."
  ne_up : name ≠ ".."

variable {name : String}

theorem isEntryName_iff :
    IsEntryName name ↔ name ≠ "" ∧ '/' ∉ name.toList ∧ name ≠ "." ∧ name ≠ ".." :=
  ⟨fun h => ⟨h.ne_empty, h.no_slash, h.ne_here, h.ne_up⟩, fun h => ⟨h.1, h.2.1, h.2.2.1, h.2.2.2⟩⟩

instance (name : String) : Decidable (IsEntryName name) :=
  decidable_of_iff _ isEntryName_iff.symm

theorem isEntryName_ofText_iff : RawPath.IsEntryName (RawPath.ofText name) ↔ IsEntryName name :=
  RawPath.isEntryName_ofText_iff.trans isEntryName_iff.symm

/-- The id behind the name has no slash, and is too long for a dot or two. -/
theorem isEntryName_instanceName_iff {id : UInt32} :
    IsEntryName (instanceName name id) ↔ '/' ∉ name.toList := by
  have hlist : (instanceName name id).toList =
      name.toList ++ '-' :: '0' :: 'x' :: (Text.hex 4 id.toNat).toList := by
    simp [instanceName, idText, toString, String.toList_append]
  have hslash : '/' ∈ (instanceName name id).toList ↔ '/' ∈ name.toList := by
    simp [hlist, Text.slash_not_mem_hex]
  have hne {other : String} (hother : 'x' ∉ other.toList) : instanceName name id ≠ other := by
    rintro rfl
    exact hother (by simp [hlist])
  rw [isEntryName_iff, hslash]
  constructor
  · exact fun h => h.2.1
  · exact fun h => ⟨hne (by decide), h, hne (by decide), hne (by decide)⟩

end Path

namespace FileSystem

/-- The names in a node that is a directory. -/
def namesIn : FileNode → List Bytes
  | .directory entries _ => entries.keys
  | _ => []

/-- Every entry of every directory has the name of an entry. -/
def IsNamed (fs : FileSystem) : Prop :=
  ∀ node ∈ fs.nodes, ∀ name ∈ namesIn node, RawPath.IsEntryName name

instance (fs : FileSystem) : Decidable fs.IsNamed :=
  inferInstanceAs (Decidable (∀ node ∈ fs.nodes, ∀ name ∈ namesIn node, RawPath.IsEntryName name))

variable {fs : FileSystem} {path : RawPath} {name : Bytes} {id : NodeId} {entries : Table Bytes NodeId}

theorem IsNamed.of_entries (h : fs.IsNamed) (hentries : fs.entries? id = some entries)
    (hname : name ∈ entries.keys) : RawPath.IsEntryName name := by
  unfold entries? at hentries
  split at hentries
  next directory mode hnode =>
    cases hentries
    exact h _ (List.mem_of_getElem? hnode) name hname
  next => cases hentries

theorem IsNamed.of_hasEntry (h : fs.IsNamed) (hentry : fs.HasEntry path name) :
    RawPath.IsEntryName name := by
  obtain ⟨place, entries, -, hentries, hname⟩ := hentry
  exact h.of_entries hentries hname

end FileSystem

/-! ### Keys of devices -/

namespace KernelBus

variable {bus : Bus KernelBus} {key : String}

/-- The devices directory has an entry with the key for its name. -/
def IsListed (store : KernelBus) (key : String) : Prop :=
  store.files.HasEntry store.devicesPath (RawPath.ofText key)

theorem isOpen_devicesPath (store : KernelBus) : RawPath.IsOpen store.devicesPath :=
  RawPath.IsStep.isOpen_join (by decide) store.busRoot

theorem isListed_iff_of_openNamed {record : DeviceRecord} {after : Bus KernelBus}
    (hnamed : bus.store.files.IsNamed) (hopen : openNamed key bus = (.ok record, after)) :
    IsListed bus.store key ↔ Path.IsEntryName key := by
  obtain ⟨base, hcanonical, -⟩ := showsDevice_of_openNamed hopen
  rw [← Path.isEntryName_ofText_iff]
  refine ⟨hnamed.of_hasEntry, fun hname => ?_⟩
  obtain ⟨-, place, hleads, -⟩ := FileSystem.canonical_eq_some_iff.mp hcanonical
  exact hleads.hasEntry (isOpen_devicesPath bus.store) hname

theorem devicePath_of_isAbsolute (h : Path.isAbsolute key = true) :
    devicePath bus key = RawPath.ofText key := by
  have hraw : RawPath.isAbsolute (RawPath.ofText key) = true := (RawPath.isAbsolute_ofText key).trans h
  rw [devicePath, RawPath.entry, RawPath.join, if_pos (by rw [hraw]; rfl)]

/-- **When an open device is a listed one.** A device that opens is listed in the devices directory
exactly when its key is the name of an entry; with an id behind it, a name without a slash is enough. An
absolute key opens the device it leads to, wherever that is. -/
theorem openByName_listed_iff (hnamed : bus.store.files.IsNamed) :
    (∀ key record after, Backend.openByName key bus = (.ok record, after) →
      (IsListed bus.store key ↔ Path.IsEntryName key)) ∧
    (∀ name id record after, Backend.openById name id bus = (.ok record, after) →
      (IsListed bus.store (instanceName name id) ↔ '/' ∉ name.toList)) ∧
    ∀ key, Path.isAbsolute key = true →
      ((∃ record after, Backend.openByName key bus = (.ok record, after)) ↔
        ∃ base, bus.store.files.canonical (RawPath.ofText key) = some base ∧
          AcceptsDevice bus.store.files bus.store.streamRoot base) := by
  refine ⟨fun key record after => isListed_iff_of_openNamed hnamed, ?_, ?_⟩
  · intro name id record after hopen
    rw [isListed_iff_of_openNamed hnamed hopen, Path.isEntryName_instanceName_iff]
  · intro key habsolute
    have hiff : (∃ record after, openNamed key bus = (.ok record, after)) ↔ _ := exists_openNamed_iff
    rw [devicePath_of_isAbsolute habsolute] at hiff
    exact hiff

/-- A bus in a directory that does not exist. -/
def elsewhere : Bus KernelBus where
  store :=
    { files := benchFiles, busRoot := RawPath.ofText "/bus", streamRoot := RawPath.ofText "/" }

theorem openByName_listed_iff_elsewhere :
    (∃ record after, Backend.openByName "/devices/z" elsewhere = (.ok record, after) ∧
      ¬ IsListed elsewhere.store "/devices/z") ∧
    ∃ record after, Backend.openByName "z" bench = (.ok record, after) ∧
      IsListed bench.store "z" := by
  have hnamed : benchFiles.IsNamed := by decide
  obtain ⟨hlisted, -, habsolute⟩ :=
    openByName_listed_iff (show elsewhere.store.files.IsNamed from hnamed)
  obtain ⟨record, after, hopen⟩ :=
    (habsolute "/devices/z" (by decide)).mpr ⟨benchPath, canonical_device, acceptsDevice_bench⟩
  obtain ⟨found, later, hfound⟩ := exists_openNamed_bench
  refine ⟨⟨record, after, hopen, ?_⟩, found, later, hfound, ?_⟩
  · rw [hlisted _ record after hopen]
    decide
  · rw [(openByName_listed_iff (show bench.store.files.IsNamed from hnamed)).1 _ found later hfound]
    decide

end KernelBus

end DaqBus

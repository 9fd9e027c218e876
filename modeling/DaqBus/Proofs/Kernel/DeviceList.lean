import DaqBus.Proofs.Kernel.Places
import DaqBus.Proofs.Memory.Listing
import DaqBus.Proofs.Text.Cutting

/-!
# Listing agrees with opening

What is listed is what is there, in order. A device in memory that is listed opens; on a kernel bus a
listed name leads to a directory, and its opening does not miss it unless something on the way there is
too long to be asked for.
-/

namespace DaqBus

namespace KernelBus

variable {fs : FileSystem} {streamRoot path base : RawPath} {name : String} {kind : ObjectKind}
  {direction : Direction} {check : Check} {bus : Bus KernelBus} {store : KernelBus}

/-! ### Devices that are not there -/

def Check.isRoot : Check → Bool
  | .root _ => true
  | _ => false

theorem fault_ne_noDevice (h : check.isRoot = false) : check.fault fs ≠ some .noDevice := by
  have hreadable (path : String) : (Check.readable path).fault fs ≠ some .noDevice := by
    rw [Check.fault]
    cases hresolve : fs.resolve (RawPath.ofText path) with
    | error code =>
        rintro ⟨⟩
        exact fs.resolve_ne_noDevice _ hresolve
    | ok place =>
        dsimp only
        split <;> decide
  cases check with
  | root path => cases h
  | readable path => exact hreadable path
  | group path =>
      rw [Check.fault]
      cases hresolve : fs.resolve path with
      | error code =>
          dsimp only
          split
          · decide
          · rintro ⟨⟩
            exact fs.resolve_ne_noDevice path hresolve
      | ok place =>
          dsimp only
          split <;> decide
  | typed path kind =>
      have hanswer := answers_attributeText fs path
      rw [Check.fault]
      cases htext : attributeText fs path with
      | error code =>
          rw [htext] at hanswer
          have hfault : firstFault fs [.readable path] = some code := hanswer
          rw [firstFault_singleton] at hfault
          rintro ⟨⟩
          exact hreadable path hfault
      | ok text =>
          dsimp only
          split
          · decide
          · cases kind <;> decide
  | stream path direction =>
      rw [Check.fault]
      cases hresolve : fs.resolve path with
      | error code =>
          rintro ⟨⟩
          exact fs.resolve_ne_noDevice path hresolve
      | ok place =>
          dsimp only
          split <;> decide

theorem isRoot_of_mem_objectChecks (h : check ∈ objectChecks base kind) : check.isRoot = false := by
  simp only [objectChecks, identityChecks, attributeChecks, List.mem_append, List.mem_cons,
    List.not_mem_nil, or_false] at h
  rcases h with ((rfl | rfl) | rfl | rfl | rfl) | rfl <;> rfl

theorem isRoot_of_mem_attributeChecks (h : check ∈ attributeChecks base) : check.isRoot = false := by
  simp only [attributeChecks, List.mem_cons, List.not_mem_nil, or_false] at h
  rcases h with rfl | rfl <;> rfl

theorem isRoot_of_mem_channelChecks (h : check ∈ channelChecks fs streamRoot direction base) :
    check.isRoot = false := by
  simp only [channelChecks, List.mem_append, List.mem_cons, List.not_mem_nil, or_false] at h
  rcases h with (hobject | hbuffer) | rfl | rfl
  · exact isRoot_of_mem_objectChecks hobject
  · exact isRoot_of_mem_attributeChecks hbuffer
  · rfl
  · rfl

theorem isRoot_of_mem_channelSetChecks (h : check ∈ channelSetChecks fs streamRoot base) :
    check.isRoot = false := by
  simp only [channelSetChecks, List.mem_append, List.mem_flatMap] at h
  rcases h with (hobject | htrigger) | ⟨channel, -, hchannel⟩
  · exact isRoot_of_mem_objectChecks hobject
  · exact isRoot_of_mem_attributeChecks htrigger
  · exact isRoot_of_mem_channelChecks hchannel

theorem fault_root_cases (fs : FileSystem) (path : RawPath) :
    (∃ base, fs.canonical path = some base ∧ fs.isDirectory base = true ∧
      (Check.root path).fault fs = none) ∨
    ((∀ base, fs.canonical path = some base → fs.isDirectory base = false) ∧
      (Check.root path).fault fs = some .noDevice) := by
  cases hcanonical : fs.canonical path with
  | none => exact .inr ⟨nofun, by rw [Check.fault, hcanonical]⟩
  | some base =>
      cases hdirectory : fs.isDirectory base with
      | true => exact .inl ⟨base, rfl, hdirectory, by simp [Check.fault, hcanonical, hdirectory]⟩
      | false =>
          refine .inr ⟨?_, by simp [Check.fault, hcanonical, hdirectory]⟩
          rintro _ ⟨⟩
          exact hdirectory

/-- **A device is missed** exactly if its path leads nowhere, or to what is no directory. -/
theorem firstFault_eq_noDevice_iff :
    firstFault fs (deviceChecks fs streamRoot path) = some .noDevice ↔
      ∀ base, fs.canonical path = some base → fs.isDirectory base = false := by
  rw [deviceChecks, ← List.singleton_append, firstFault_append, firstFault_singleton]
  rcases fault_root_cases fs path with ⟨base, hcanonical, hdirectory, hfault⟩ | ⟨hnone, hfault⟩
  · rw [hfault, Option.none_or, hcanonical]
    constructor
    · intro hmissed
      obtain ⟨check, hcheck, hnone⟩ := List.exists_of_findSome?_eq_some hmissed
      refine absurd hnone (fault_ne_noDevice ?_)
      rcases List.mem_append.mp hcheck with hobject | hsets
      · exact isRoot_of_mem_objectChecks hobject
      · obtain ⟨set, -, hset⟩ := List.mem_flatMap.mp hsets
        exact isRoot_of_mem_channelSetChecks hset
    · intro hall
      rw [hall base rfl] at hdirectory
      cases hdirectory
  · rw [hfault, Option.some_or]
    exact ⟨fun _ => hnone, fun _ => rfl⟩

theorem openNamed_eq_noDevice_iff :
    (∃ after, openNamed name bus = (.error .noDevice, after)) ↔
      ∀ base, bus.store.files.canonical (devicePath bus name) = some base →
        bus.store.files.isDirectory base = false := by
  have hanswer := answers_openNamed name bus
  have hmissed : firstFault bus.store.files
      (deviceChecks bus.store.files bus.store.streamRoot (devicePath bus name)) = some .noDevice ↔ _ :=
    firstFault_eq_noDevice_iff
  rw [← hmissed]
  rcases hopen : openNamed name bus with ⟨code | record, after⟩
  · rw [hopen] at hanswer
    have hfault : firstFault _ _ = some code := hanswer
    rw [hfault]
    constructor
    · rintro ⟨_, ⟨⟩⟩
      rfl
    · rintro ⟨⟩
      exact ⟨after, rfl⟩
  · rw [hopen] at hanswer
    have hfault : firstFault _ _ = none := hanswer.1
    rw [hfault]
    constructor
    · rintro ⟨_, ⟨⟩⟩
    · nofun

/-- **What a name leads to is missed** exactly if something on the way cannot be asked for. -/
theorem openNamed_of_isDirectory (htree : bus.store.files.IsTree) (hname : Path.IsEntryName name)
    (hdirectory : bus.store.files.isDirectory (devicePath bus name) = true) :
    (∃ after, openNamed name bus = (.error .noDevice, after)) ↔
      ∃ asked, bus.store.files.Asks (bus.store.files.course (devicePath bus name)) asked ∧
        FileSystem.pathLimit ≤ asked.length := by
  have hentry := Path.isEntryName_ofText_iff.mpr hname
  obtain ⟨hne, hask, place, hleads, hentries⟩ := FileSystem.isDirectory_iff.mp hdirectory
  rw [openNamed_eq_noDevice_iff]
  constructor
  · intro hmissed
    by_contra hnone
    have hshort : bus.store.files.IsShort (bus.store.files.course (devicePath bus name)) :=
      fun asked hasked => Nat.not_le.mp fun hlong => hnone ⟨asked, hasked, hlong⟩
    have hcanonical : bus.store.files.canonical (devicePath bus name) = some place.path :=
      FileSystem.canonical_eq_some_iff.mpr ⟨⟨hask.no_zero, hne, hshort⟩, place, hleads, rfl⟩
    have hreached := htree.isReached_of_leadsTo hleads
    have hlength : place.path.length < FileSystem.pathLimit := by
      obtain ⟨used, -, hway⟩ := hleads
      refine hshort.length_path_lt hway htree.isNamed (htree.isReached_start _) (.inr ?_) rfl
      rw [devicePath, RawPath.entry, FileSystem.course_join _ (isOpen_devicesPath bus.store)
        hentry.toIsStep]
      exact ⟨_, List.mem_append_right _ List.mem_cons_self, hentry.ne_here, hentry.ne_up⟩
    have hfound := hmissed _ hcanonical
    rw [FileSystem.isDirectory, hreached.resolve_path
      ((htree.isAskable_path_iff hreached).mpr hlength)] at hfound
    exact absurd (hentries.symm.trans hfound) (by decide)
  · rintro ⟨asked, hasked, hlong⟩ base hcanonical
    obtain ⟨⟨-, -, hshort⟩, -⟩ := FileSystem.canonical_eq_some_iff.mp hcanonical
    exact absurd (hshort asked hasked) (Nat.not_lt.mpr hlong)

/-! ### What is listed -/

theorem modules_device_eq (store : KernelBus) :
    Backend.modules .device store = (store.deviceNames, store) := rfl

theorem deviceNames_of_noEntry (h : store.files.resolve store.devicesPath = .error .noEntry) :
    store.deviceNames = .ok [] := by
  have hnames : store.files.names store.devicesPath = .error .noEntry := by
    rcases names_cases store.files store.devicesPath with ⟨code, hresolve, hnames⟩ |
      ⟨place, hresolve, -⟩ | ⟨place, entries, hresolve, -⟩
    all_goals
      rw [h] at hresolve
      cases hresolve
    exact hnames
  rw [deviceNames, hnames]
  rfl

/-- Whether an entry of the devices directory is listed. -/
def isDevice (store : KernelBus) (name : Bytes) : Bool :=
  !isHardwareName (RawPath.text name) && store.files.isDirectory (store.devicesPath.join name)

/-- Every entry of every directory has a text for its name. -/
def HasTextNames (fs : FileSystem) : Prop :=
  ∀ node ∈ fs.nodes, ∀ name ∈ FileSystem.namesIn node, RawPath.ofText (RawPath.text name) = name

theorem HasTextNames.of_entries (h : HasTextNames fs) {id : NodeId} {entries : Table Bytes NodeId}
    (hentries : fs.entries? id = some entries) {name : Bytes} (hname : name ∈ entries.keys) :
    RawPath.ofText (RawPath.text name) = name := by
  unfold FileSystem.entries? at hentries
  split at hentries
  next directory mode hnode =>
    cases hentries
    exact h _ (List.mem_of_getElem? hnode) name hname
  next => cases hentries

theorem deviceNames_of_isDirectory (htree : store.files.IsTree) (htext : HasTextNames store.files)
    (h : store.files.isDirectory store.devicesPath = true) :
    ∃ names, store.deviceNames = .ok names ∧
      (names.Pairwise fun first second => Text.Utf8.encode first < Text.Utf8.encode second) ∧
      ∀ name, name ∈ names ↔ store.files.HasEntry store.devicesPath (RawPath.ofText name) ∧
        store.isDevice (RawPath.ofText name) := by
  rcases names_cases store.files store.devicesPath with ⟨code, hresolve, -⟩ |
    ⟨place, hresolve, hentries, -⟩ | ⟨place, entries, hresolve, hentries, hnames⟩
  · rw [FileSystem.isDirectory, hresolve] at h
    cases h
  · rw [FileSystem.isDirectory, hresolve] at h
    simp only [hentries, Option.isSome_none, Bool.false_eq_true] at h
  · obtain ⟨hne, hask, hleads⟩ := FileSystem.resolve_eq_ok_iff.mp hresolve
    refine ⟨((entries.keys.mergeSort.filter store.isDevice).map RawPath.text).mergeSort, ?_, ?_, ?_⟩
    · rw [deviceNames, hnames]
      rfl
    · apply Text.Utf8.pairwise_mergeSort
      have hnodup : (entries.keys.mergeSort.filter store.isDevice).Nodup :=
        ((List.mergeSort_perm _ _).nodup_iff.mpr (htree.of_entries hentries).1).filter _
      refine hnodup.map_on fun first hfirst second hsecond heq => ?_
      have htextOf {name : Bytes} (hname : name ∈ entries.keys.mergeSort.filter store.isDevice) :
          RawPath.ofText (RawPath.text name) = name :=
        htext.of_entries hentries (List.mem_mergeSort.mp (List.mem_filter.mp hname).1)
      rw [← htextOf hfirst, heq, htextOf hsecond]
    · intro name
      have hentry : store.files.HasEntry store.devicesPath (RawPath.ofText name) ↔
          RawPath.ofText name ∈ entries.keys := by
        constructor
        · rintro ⟨other, found, hother, hfound, hname⟩
          rw [FileSystem.resolve_eq_ok_iff.mpr ⟨hne, hask, hother⟩] at hresolve
          cases hresolve
          rw [hentries] at hfound
          cases hfound
          exact hname
        · exact fun hname => ⟨place, entries, hleads, hentries, hname⟩
      rw [List.mem_mergeSort, List.mem_map, hentry]
      constructor
      · rintro ⟨raw, hraw, rfl⟩
        obtain ⟨hmem, hdevice⟩ := List.mem_filter.mp hraw
        rw [List.mem_mergeSort] at hmem
        rw [htext.of_entries hentries hmem]
        exact ⟨hmem, hdevice⟩
      · rintro ⟨hmem, hdevice⟩
        exact ⟨_, List.mem_filter.mpr ⟨List.mem_mergeSort.mpr hmem, hdevice⟩, RawPath.text_ofText name⟩

/-- An entry is listed if its path, which must not be too long, leads to a directory. -/
theorem isDevice_ofText_iff (htree : store.files.IsTree)
    (hdirectory : store.files.isDirectory store.devicesPath = true)
    (hentry : store.files.HasEntry store.devicesPath (RawPath.ofText name)) :
    store.isDevice (RawPath.ofText name) = true ↔ isHardwareName name = false ∧
      (store.devicesPath.entry name).length < FileSystem.pathLimit ∧
      ∃ place, store.files.LeadsTo (store.devicesPath.entry name) place ∧
        (store.files.entries? place.node).isSome := by
  have hstep := (htree.isNamed.of_hasEntry hentry).toIsStep
  have hopen := isOpen_devicesPath store
  have hzero : (RawPath.ofText name).contains 0 = false := by
    obtain ⟨place, entries, -, hentries, hname⟩ := hentry
    simpa using (htree.of_entries hentries).2 _ hname
  obtain ⟨-, hask, -⟩ := FileSystem.isDirectory_iff.mp hdirectory
  have haskable : RawPath.IsAskable (store.devicesPath.entry name) ↔
      (store.devicesPath.entry name).length < FileSystem.pathLimit := by
    rw [RawPath.entry, RawPath.isAskable_join_iff hopen hstep, hopen.length_join hstep]
    simp only [hask.no_zero, hzero, true_and]
  rw [isDevice, RawPath.text_ofText, Bool.and_eq_true, Bool.not_eq_true', ← haskable]
  refine and_congr_right fun _ => ?_
  show store.files.isDirectory (store.devicesPath.entry name) = true ↔ _
  rw [FileSystem.isDirectory_iff, and_iff_right (entry_ne_nil _ hstep)]

/-- **Listing agrees with opening.** In memory, what was registered opens and is listed, and nothing
else, whatever else the store was told and asked. On a kernel bus the directories in the devices
directory are listed, with or without links in between, as far as their paths there can be asked for.
The opening of a listed name misses it exactly if something on its way is too long to be asked for. -/
theorem listed_opens :
    (∀ calls : List MemoryBus.Call,
      let bus := calls.foldl MemoryBus.Call.run { store := {} }
      let registered (key : String) :=
        ∃ device, .changes (.addDevice device) ∈ calls ∧ device.key = key
      bus.store.openFailure = none →
        (∀ key, (∃ record after, Backend.openByName key bus = (.ok record, after)) ↔ registered key) ∧
        ∃ names, Backend.modules .device bus.store = (.ok names, bus.store) ∧
          (names.Pairwise fun first second => Text.Utf8.encode first < Text.Utf8.encode second) ∧
          ∀ name, name ∈ names ↔ registered name ∧ isHardwareName name = false) ∧
    ∀ bus : Bus KernelBus, bus.store.files.IsTree → HasTextNames bus.store.files →
      let fs := bus.store.files
      let devices := bus.store.devicesPath
      (fs.resolve devices = .error .noEntry →
        Backend.modules .device bus.store = (.ok [], bus.store)) ∧
      (fs.isDirectory devices = true →
        ∃ names, Backend.modules .device bus.store = (.ok names, bus.store) ∧
          (names.Pairwise fun first second => Text.Utf8.encode first < Text.Utf8.encode second) ∧
          (∀ name, name ∈ names ↔ fs.HasEntry devices (RawPath.ofText name) ∧
            isHardwareName name = false ∧ (devices.entry name).length < FileSystem.pathLimit ∧
            ∃ place, fs.LeadsTo (devices.entry name) place ∧ (fs.entries? place.node).isSome) ∧
          ∀ name ∈ names, (∃ after, Backend.openByName name bus = (.error .noDevice, after)) ↔
            ∃ asked, fs.Asks (fs.course (devices.entry name)) asked ∧
              FileSystem.pathLimit ≤ asked.length) := by
  refine ⟨fun calls => ?_, fun bus htree htext => ⟨fun habsent => ?_, fun hdirectory => ?_⟩⟩
  · intro bus registered hopen
    have hregisters := MemoryBus.registers_run calls
    have hregistered (key : String) :
        registered key ↔ ∃ device ∈ calls.filterMap MemoryBus.Call.registered?, device.key = key := by
      simp only [registered, List.mem_filterMap, MemoryBus.Call.registered?_eq_some_iff,
        exists_eq_right]
    refine ⟨fun key => ?_, bus.store.deviceNames, rfl, hregisters.sorted_deviceNames, fun name => ?_⟩
    · rw [hregistered, ← hregisters.found_iff hopen]
      obtain ⟨log, hfound⟩ := MemoryBus.openKey_eq key bus
      show (∃ record after, MemoryBus.openKey key bus = (.ok record, after)) ↔ _
      rw [hfound]
      constructor
      · rintro ⟨record, after, hrecord⟩
        exact ⟨record, congrArg Prod.fst hrecord⟩
      · rintro ⟨record, hrecord⟩
        exact ⟨record, _, Prod.ext hrecord rfl⟩
    · rw [hregisters.mem_deviceNames_iff, hregistered, and_comm]
  · rw [modules_device_eq, deviceNames_of_noEntry habsent]
  · obtain ⟨names, hnames, hsorted, hmem⟩ := deviceNames_of_isDirectory htree htext hdirectory
    refine ⟨names, by rw [modules_device_eq, hnames], hsorted, fun name => ?_, fun name hname => ?_⟩
    · rw [hmem]
      exact and_congr_right fun hentry => isDevice_ofText_iff htree hdirectory hentry
    · obtain ⟨hentry, hdevice⟩ := (hmem name).mp hname
      rw [isDevice, Bool.and_eq_true] at hdevice
      exact openNamed_of_isDirectory htree
        (Path.isEntryName_ofText_iff.mp (htree.isNamed.of_hasEntry hentry)) hdevice.2

/-- The calls of a store that was told of three devices, one of them twice. -/
def benchCalls : List MemoryBus.Call :=
  [.changes (.addDevice { name := "tdc", id := some 3 }), .changes (.addDevice { name := "hw-tdc" }),
    .opensName "adc", .changes (.addDevice { name := "adc" }), .changes (.failOpen (some .noDevice)),
    .changes (.addDevice { name := "adc", sets := [{ direction := .input, channels := 2 }] }),
    .changes (.failOpen none)]

theorem ofText_text_of_mem_entriesOf {entries : List (String × NodeId)} {name : Bytes}
    (hname : name ∈ (entriesOf entries).keys) : RawPath.ofText (RawPath.text name) = name := by
  rw [Table.keys, entriesOf, List.map_map] at hname
  obtain ⟨entry, -, rfl⟩ := List.mem_map.mp hname
  exact congrArg RawPath.ofText (RawPath.text_ofText _)

theorem hasTextNames_benchFiles : HasTextNames benchFiles := by
  have hnodes : ∀ node ∈ benchFiles.nodes, ∀ entries mode, node = .directory entries mode →
      ∃ items, entries = entriesOf items := by
    simp [benchFiles]
  intro node hnode name hname
  cases node with
  | directory entries mode =>
      obtain ⟨items, rfl⟩ := hnodes _ hnode _ _ rfl
      exact ofText_text_of_mem_entriesOf hname
  | file content mode => cases hname
  | link target => cases hname

theorem listed_opens_bench :
    (∃ record after, Backend.openByName "adc" (benchCalls.foldl MemoryBus.Call.run { store := {} }) =
      (.ok record, after)) ∧
    ∃ names, Backend.modules .device bench.store = (.ok names, bench.store) ∧ "z" ∈ names ∧
      ¬ ∃ after, Backend.openByName "z" bench = (.error .noDevice, after) := by
  obtain ⟨hmemory, hkernel⟩ := listed_opens
  have htree : benchFiles.IsTree :=
    ⟨by decide, by decide, by decide, .root⟩
  have hentry : benchFiles.HasEntry bench.store.devicesPath (RawPath.ofText "z") := by
    obtain ⟨record, after, hopen⟩ := exists_openNamed_bench
    exact (isListed_iff_of_openNamed htree.isNamed hopen).mpr (by decide)
  have hdevice : benchFiles.LeadsTo (devicePath bench "z") benchPlace := by
    rw [devicePath_bench]
    exact (FileSystem.resolve_eq_ok_iff.mp resolve_device).2.2
  have hlinks : benchFiles.LacksLinks := by decide
  have hdevices : benchFiles.isDirectory bench.store.devicesPath = true := by
    rw [FileSystem.isDirectory, FileSystem.resolve_eq_look hlinks (by decide)]
    decide
  refine ⟨((hmemory benchCalls rfl).1 "adc").mpr
    ⟨{ name := "adc" }, by simp [benchCalls], by decide⟩, ?_⟩
  obtain ⟨names, hnames, -, hmem, hopens⟩ := (hkernel bench htree hasTextNames_benchFiles).2 hdevices
  have hlisted : "z" ∈ names :=
    (hmem "z").mpr ⟨hentry, by decide, by decide, benchPlace, hdevice, rfl⟩
  refine ⟨names, hnames, hlisted, ?_⟩
  rw [hopens "z" hlisted]
  rintro ⟨asked, hasked, hlong⟩
  obtain ⟨⟨-, -, hshort⟩, -⟩ := FileSystem.canonical_eq_some_iff.mp canonical_bench
  exact absurd (hshort asked hasked) (Nat.not_lt.mpr hlong)

/-! ### A device too deep

Two links, each of a length that can be asked for, lead to a device whose own path is too long. -/

def longName : Bytes := List.replicate 255 0x6E

/-- The way down a shaft of directories, each of which holds one of the long name. -/
def shaft : Nat → Place
  | 0 => [(RawPath.ofText "d", 4)]
  | k + 1 => (longName, k + 5) :: shaft k

/-- As far again, behind the link that leads halfway. -/
def detour : Place := List.replicate 8 (longName, 0) ++ [(RawPath.ofText "l", 3)]

def deepRoot : Table Bytes NodeId := entriesOf [("devices", 1), ("l", 3), ("d", 4)]

def deepNodes : List FileNode :=
  [.directory deepRoot 0o755, .directory (entriesOf [("z", 2)]) 0o755,
    .link detour.path, .link (shaft 8).path] ++
  (List.range 16).map (fun k => .directory ⟨[(longName, k + 5)]⟩ 0o755) ++ [.directory ⟨[]⟩ 0o755]

def deepFiles : FileSystem where
  nodes := deepNodes

def deepBus : Bus KernelBus where
  store := { files := deepFiles, busRoot := RawPath.ofText "/", streamRoot := RawPath.ofText "/" }

theorem isEntryName_longName : RawPath.IsEntryName longName := by decide

theorem length_longName : longName.length = 255 := List.length_replicate

theorem node_shaft (k : Nat) : (shaft k).node = k + 4 := by
  cases k <;> rfl

theorem node?_deepFiles {k : Nat} (hk : k < 16) :
    deepFiles.node? (k + 4) = some (.directory ⟨[(longName, k + 5)]⟩ 0o755) := by
  show deepNodes[k + 4]? = _
  rw [deepNodes, List.append_assoc, List.getElem?_append_right (by simp)]
  simp [hk, List.getElem?_append_left]

theorem isDirectory_deepFiles {k : Nat} (hk : k ≤ 16) :
    ∃ entries, deepFiles.node? (k + 4) = some (.directory entries 0o755) := by
  rcases Nat.lt_or_eq_of_le hk with hless | rfl
  · exact ⟨_, node?_deepFiles hless⟩
  · exact ⟨⟨[]⟩, rfl⟩

theorem isReached_shaft {k : Nat} (hk : k ≤ 16) : deepFiles.IsReached (shaft k) := by
  have hnotLink {k : Nat} (hk : k ≤ 16) (target : RawPath) :
      deepFiles.node? (k + 4) ≠ some (.link target) := by
    obtain ⟨entries, hnode⟩ := isDirectory_deepFiles hk
    rw [hnode]
    nofun
  induction k with
  | zero =>
      have hid : deepRoot.find? (RawPath.ofText "d") = some 4 := find?_entriesOf _ _
      exact .entry .root rfl hid (by decide) (by decide) (hnotLink hk)
  | succ k ih =>
      have hentries : deepFiles.entries? (shaft k).node = some ⟨[(longName, k + 5)]⟩ := by
        rw [node_shaft, FileSystem.entries?, node?_deepFiles (by omega)]
      exact .entry (ih (by omega)) hentries (by simp [Table.find?]) isEntryName_longName
        (by rw [length_longName]; decide) (hnotLink hk)

theorem length_shaft (k : Nat) : (shaft k).path.length = 2 + 256 * k := by
  induction k with
  | zero => decide
  | succ k ih =>
      have hne : shaft k ≠ [] := by cases k <;> nofun
      rw [shaft, Place.path_cons hne, List.length_append, List.length_cons, ih, length_longName]
      omega

theorem names_shaft (k : Nat) :
    (shaft k).reverse.map Prod.fst = RawPath.ofText "d" :: List.replicate k longName := by
  induction k with
  | zero => rfl
  | succ k ih =>
      rw [shaft, List.reverse_cons, List.map_append, ih, List.replicate_succ']
      rfl

theorem components_detour :
    detour.path.components = RawPath.ofText "l" :: List.replicate 8 longName := by
  rw [Place.components_path]
  · simp [detour]
  · simp only [detour, List.mem_append, List.mem_replicate, List.mem_singleton]
    rintro step (⟨-, rfl⟩ | rfl)
    · exact isEntryName_longName.toIsStep
    · decide

theorem components_shaft :
    (shaft 8).path.components = RawPath.ofText "d" :: List.replicate 8 longName := by
  rw [Place.components_path (isReached_shaft (by decide)).isStep, names_shaft]

theorem resolve_deepFiles : deepFiles.resolve benchPath = .ok (shaft 16) := by
  have hplain : FileSystem.IsPlain (RawPath.ofText "l") := by
    unfold FileSystem.IsPlain
    decide
  have hroot : deepFiles.entries? (Place.node []) = some deepRoot := rfl
  have hdevices : deepFiles.entries? (Place.node [(RawPath.ofText "devices", 1)]) =
      some (entriesOf [("z", 2)]) := rfl
  have hids : deepRoot.find? (RawPath.ofText "devices") = some 1 ∧
      deepRoot.find? (RawPath.ofText "l") = some 3 ∧
      (entriesOf [("z", 2)]).find? (RawPath.ofText "z") = some 2 :=
    ⟨find?_entriesOf _ _, find?_entriesOf _ _, find?_entriesOf _ _⟩
  have hdirectory (target : RawPath) : deepFiles.node? 1 ≠ some (.link target) := nofun
  have hfar : deepFiles.node? 2 = some (.link detour.path) := rfl
  have hhalf : deepFiles.node? 3 = some (.link (shaft 8).path) := rfl
  have hnames : RawPath.ofText "d" :: List.replicate 8 longName ++ List.replicate 8 longName =
      (shaft 16).reverse.map Prod.fst ++ [] := by
    rw [names_shaft, List.append_nil, List.cons_append, List.replicate_append_replicate]
  have hwalk : deepFiles.walk true 40 benchPath.components [] = .ok (.found (shaft 16)) := by
    rw [components_benchPath, FileSystem.walk_entry true 40 _ hroot (isPlain_benchPath _ (by decide)) hids.1 hdirectory,
      FileSystem.walk_link 39 [] hdevices (isPlain_benchPath _ (by decide)) hids.2.2 hfar, components_detour,
      if_pos detour.isAbsolute_path, List.append_nil,
      FileSystem.walk_link 38 _ hroot hplain hids.2.1 hhalf, components_shaft,
      if_pos (shaft 8).isAbsolute_path, hnames, (isReached_shaft (Nat.le_refl 16)).walk_names,
      FileSystem.walk]
  have hstart : deepFiles.start benchPath = [] := if_pos (by decide)
  rw [FileSystem.resolve_eq deepFiles isAskable_benchPath isObjectAt_device.isOpen.ne_nil, hstart]
  show deepFiles.walk true 40 benchPath.components [] >>= Arrival.place = _
  rw [hwalk]
  rfl

theorem namesIn_deepNodes {node : FileNode} (hnode : node ∈ deepFiles.nodes) :
    FileSystem.namesIn node ∈
      [["devices", "l", "d"].map RawPath.ofText, ["z"].map RawPath.ofText, [longName], []] := by
  have hnodes : deepFiles.nodes = deepNodes := rfl
  simp only [hnodes, deepNodes, List.mem_append, List.mem_cons, List.not_mem_nil, or_false,
    List.mem_map, List.mem_range] at hnode
  rcases hnode with ((rfl | rfl | rfl | rfl) | ⟨k, -, rfl⟩) | rfl <;>
    simp [FileSystem.namesIn, Table.keys, entriesOf, deepRoot]

theorem ofText_text_longName : RawPath.ofText (RawPath.text longName) = longName := by
  have hlong : longName = RawPath.ofText (String.ofList (List.replicate 255 'n')) := by
    have hbyte : String.utf8EncodeChar 'n' = [0x6E] := by decide
    rw [RawPath.ofText, Text.Utf8.encode, String.toList_ofList, longName, List.flatMap_replicate,
      hbyte, List.flatten_replicate_singleton]
  rw [hlong, RawPath.text_ofText]

theorem namesIn_deepFiles : ∀ node ∈ deepFiles.nodes, (FileSystem.namesIn node).Nodup ∧
    ∀ name ∈ FileSystem.namesIn node, RawPath.IsEntryName name ∧ 0 ∉ name ∧
      RawPath.ofText (RawPath.text name) = name := by
  have hgood : ∀ names ∈
      [["devices", "l", "d"].map RawPath.ofText, ["z"].map RawPath.ofText, [longName], []],
      names.Nodup ∧ ∀ name ∈ names, RawPath.IsEntryName name ∧ 0 ∉ name ∧
        (name ≠ longName → RawPath.ofText (RawPath.text name) = name) := by
    decide +kernel
  intro node hnode
  obtain ⟨hnodup, hnames⟩ := hgood _ (namesIn_deepNodes hnode)
  refine ⟨hnodup, fun name hname => ?_⟩
  obtain ⟨hentry, hzero, htext⟩ := hnames name hname
  refine ⟨hentry, hzero, ?_⟩
  by_cases hlong : name = longName
  · rw [hlong, ofText_text_longName]
  · exact htext hlong

theorem isTree_deepFiles : deepFiles.IsTree where
  isNamed node hnode name hname := ((namesIn_deepFiles node hnode).2 name hname).1
  noZero node hnode name hname := ((namesIn_deepFiles node hnode).2 name hname).2.1
  nodup node hnode := (namesIn_deepFiles node hnode).1
  home := .root

theorem hasTextNames_deepFiles : HasTextNames deepFiles :=
  fun node hnode name hname => ((namesIn_deepFiles node hnode).2 name hname).2.2

theorem devicePath_deepBus : devicePath deepBus "z" = benchPath := devicePath_bench

/-- A device that is listed is missed when it is opened. -/
theorem openByName_misses_listed :
    deepBus.store.files.IsTree ∧ HasTextNames deepBus.store.files ∧
      deepBus.store.files.isDirectory deepBus.store.devicesPath = true ∧
      (∃ names, Backend.modules .device deepBus.store = (.ok names, deepBus.store) ∧ "z" ∈ names) ∧
      ∃ after, Backend.openByName "z" deepBus = (.error .noDevice, after) := by
  have hplace : deepBus.store.files.resolve (devicePath deepBus "z") = .ok (shaft 16) := by
    rw [devicePath_deepBus]
    exact resolve_deepFiles
  have hdevice : deepBus.store.files.isDirectory (devicePath deepBus "z") = true := by
    rw [FileSystem.isDirectory, hplace]
    rfl
  have hleads := (FileSystem.resolve_eq_ok_iff.mp hplace).2.2
  have hentry : deepBus.store.files.HasEntry deepBus.store.devicesPath (RawPath.ofText "z") :=
    hleads.hasEntry (isOpen_devicesPath deepBus.store) (by decide)
  have hdevices : deepBus.store.files.isDirectory deepBus.store.devicesPath = true := by
    obtain ⟨place, entries, hroot, hentries, -⟩ := hentry
    exact FileSystem.isDirectory_iff.mpr ⟨by decide, ⟨by decide, by decide⟩,
      place, hroot, by rw [hentries]; rfl⟩
  obtain ⟨names, hnames, -, hmem⟩ :=
    deviceNames_of_isDirectory isTree_deepFiles hasTextNames_deepFiles hdevices
  refine ⟨isTree_deepFiles, hasTextNames_deepFiles, hdevices, ⟨names, ?_, ?_⟩, ?_⟩
  · rw [modules_device_eq, hnames]
  · rw [hmem, isDevice]
    refine ⟨hentry, ?_⟩
    rw [Bool.and_eq_true]
    exact ⟨by decide +kernel, hdevice⟩
  · refine (openNamed_of_isDirectory isTree_deepFiles (by decide) hdevice).mpr ?_
    -- If all could be asked for on the way, so could the path of the device.
    by_contra hnone
    have hshort : deepFiles.IsShort (deepFiles.course (devicePath deepBus "z")) :=
      fun asked hasked => Nat.not_le.mp fun hlong => hnone ⟨asked, hasked, hlong⟩
    obtain ⟨used, -, hway⟩ := hleads
    have hlength := hshort.length_path_lt hway isTree_deepFiles.isNamed
      (isTree_deepFiles.isReached_start (devicePath deepBus "z")) (.inl (by decide)) rfl
    rw [length_shaft] at hlength
    exact absurd hlength (by decide)

end KernelBus

end DaqBus

import DaqBus.Proofs.Kernel.Opening

/-!
# Devices that are there and do not open

A device can be refused although every identity file is there with the right content and whatever is
found under the name of a group is a directory. A link may lead astray, so that nothing is found and yet
nothing is missing; and an object may have a name that is no text, under which its files are found, but
not under the text of its path, by which a scan asks for them.
-/

namespace DaqBus.KernelBus

variable {fs : FileSystem} {path base : RawPath} {kind : ObjectKind}

/-! ### What is there -/

/-- There is a directory, if the path resolves at all. -/
def IsDirectoryIfFound (fs : FileSystem) (path : RawPath) : Prop :=
  ∀ place, fs.resolve path = .ok place → (fs.entries? place.node).isSome = true

/-- The file at a path begins with this content. -/
def ShowsText (fs : FileSystem) (path : RawPath) (text : String) : Prop :=
  ∃ content, fs.readBytes path Backend.textLimit = .ok content ∧
    Text.trimNewlines (Text.Utf8.decode content) = text

structure HasAttributes (fs : FileSystem) (base : RawPath) : Prop where
  standard : IsDirectoryIfFound fs (base.entry "standard")
  extended : IsDirectoryIfFound fs (base.entry "extended")

structure HasObject (fs : FileSystem) (base : RawPath) (kind : ObjectKind) : Prop
    extends HasAttributes fs base where
  name : ∃ text, ShowsText fs (base.entry "name") text
  deviceName : ∃ text, ShowsText fs (base.entry "devname") text
  typeName : ∃ text, ShowsText fs (base.entry "devtype") text ∧ ObjectKind.ofTypeName text = kind

/-- A device whose channel-sets have no channels. -/
structure HasDevice (fs : FileSystem) (base : RawPath) : Prop
    extends HasObject fs base .device where
  isDirectory : fs.isDirectory base = true
  sets : ∀ set, IsObjectIn fs base "cset" set → HasObject fs set .channelSet ∧
    IsDirectoryIfFound fs (set.entry "trigger") ∧ HasAttributes fs (set.entry "trigger") ∧
    ∀ channel, ¬ IsObjectIn fs set "chan" channel

theorem isDirectoryIfFound_of_error {code : Errno} (h : fs.resolve path = .error code) :
    IsDirectoryIfFound fs path := by
  intro place hplace
  rw [h] at hplace
  cases hplace

theorem showsText_of_file {place : Place} {text : String} {mode : UInt32}
    (hplace : fs.resolve path = .ok place)
    (hfile : fs.node? place.node = some (.file (Text.Utf8.encode text) mode))
    (htext : Text.trimNewlines
      (Text.Utf8.decode ((Text.Utf8.encode text).take Backend.textLimit)) = text) :
    ShowsText fs path text := by
  refine ⟨(Text.Utf8.encode text).take Backend.textLimit, ?_, htext⟩
  rw [readBytes_eq _ _ (by decide), hplace]
  dsimp only
  rw [hfile]

theorem HasObject.of_files {id : NodeId} {place : Place}
    (hgroups : HasAttributes fs base)
    (hresolve : ∀ name ∈ [("name", 3), ("devname", 3), ("devtype", id)],
      fs.resolve (base.entry name.1) = .ok ((RawPath.ofText name.1, name.2) :: place))
    (hname : fs.node? 3 = some (.file (Text.Utf8.encode "z") 0o444))
    (htype : fs.node? id = some (.file (Text.Utf8.encode kind.typeName) 0o444)) :
    HasObject fs base kind where
  toHasAttributes := hgroups
  name := ⟨"z", showsText_of_file (hresolve ("name", 3) (by simp)) hname (by decide +kernel)⟩
  deviceName :=
    ⟨"z", showsText_of_file (hresolve ("devname", 3) (by simp)) hname (by decide +kernel)⟩
  typeName := ⟨kind.typeName, showsText_of_file (hresolve ("devtype", id) (by simp)) htype
    (by cases kind <;> decide +kernel), ObjectKind.ofTypeName_typeName kind⟩

/-! ### A link that leads astray

It leads through a file, where no directory can be. -/

def strayEntries : List (String × NodeId) :=
  [("name", 3), ("devname", 3), ("devtype", 4), ("standard", 5)]

def strayFiles : FileSystem where
  nodes := [.directory (entriesOf [("devices", 1)]) 0o755,
    .directory (entriesOf [("z", 2)]) 0o755,
    .directory (entriesOf strayEntries) 0o755,
    .file (Text.Utf8.encode "z") 0o444,
    .file (Text.Utf8.encode ObjectKind.device.typeName) 0o444,
    .link (RawPath.ofText "name/x")]

def strayBus : Bus KernelBus where
  store := { files := strayFiles, busRoot := RawPath.ofText "/", streamRoot := RawPath.ofText "/" }

/-- The directory at a place has an entry that is no link. -/
structure Holds (place : Place) (name : String) (id : NodeId) (entries : List (String × NodeId)) :
    Prop where
  entries_eq : strayFiles.entries? place.node = some (entriesOf entries)
  isPlain : FileSystem.IsPlain (RawPath.ofText name)
  lookup_eq : entries.lookup name = some id
  ne_link : ∀ target, strayFiles.node? id ≠ some (.link target)

section Holds

variable {place : Place} {name : String} {id : NodeId} {entries : List (String × NodeId)}

theorem Holds.find_eq (h : Holds place name id entries) :
    (entriesOf entries).find? (RawPath.ofText name) = some id :=
  (find?_entriesOf entries name).trans h.lookup_eq

theorem Holds.step (h : Holds place name id entries) (rest : List Bytes) :
    strayFiles.Step 0 (RawPath.ofText name :: rest, place)
      (rest, (RawPath.ofText name, id) :: place) :=
  .entry h.entries_eq h.isPlain h.find_eq h.ne_link

end Holds

theorem holds_devices : Holds [] "devices" 1 [("devices", 1)] :=
  ⟨rfl, isPlain_benchPath _ (by decide), rfl, nofun⟩

theorem holds_z : Holds [(RawPath.ofText "devices", 1)] "z" 2 [("z", 2)] :=
  ⟨rfl, isPlain_benchPath _ (by decide), rfl, nofun⟩

theorem holds_name : Holds benchPlace "name" 3 strayEntries :=
  ⟨rfl, (isBenchName (by decide)).isPlain, rfl, nofun⟩

theorem course_stray :
    strayFiles.course benchPath = ([RawPath.ofText "devices", RawPath.ofText "z"], []) :=
  Prod.ext components_benchPath rfl

theorem leads_stray (rest : List Bytes) :
    strayFiles.Leads 0 (RawPath.ofText "devices" :: RawPath.ofText "z" :: rest, [])
      (rest, benchPlace) :=
  .step (holds_devices.step _) (.step (holds_z.step rest) (.refl _))

theorem leadsTo_stray : strayFiles.LeadsTo benchPath benchPlace := by
  refine ⟨0, by decide, ?_⟩
  rw [course_stray]
  exact leads_stray []

theorem resolve_stray : strayFiles.resolve benchPath = .ok benchPlace :=
  FileSystem.resolve_eq_ok_iff.mpr
    ⟨isObjectAt_device.isOpen.ne_nil, isAskable_benchPath, leadsTo_stray⟩

theorem canonical_stray : strayFiles.canonical benchPath = some benchPath := by
  have hshort : strayFiles.IsShort (strayFiles.course benchPath) := by
    rw [course_stray, FileSystem.isShort_entry_iff holds_devices.entries_eq holds_devices.isPlain
        holds_devices.find_eq holds_devices.ne_link,
      FileSystem.isShort_entry_iff holds_z.entries_eq holds_z.isPlain holds_z.find_eq
        holds_z.ne_link]
    exact ⟨by decide, by decide, by decide, by decide,
      FileSystem.isShort_nil _⟩
  exact FileSystem.canonical_eq_some_iff.mpr
    ⟨⟨isAskable_benchPath.no_zero, isObjectAt_device.isOpen.ne_nil, hshort⟩, benchPlace, leadsTo_stray,
      by decide⟩

/-- An entry of the device that is no link. -/
theorem resolve_strayEntry {name : String}
    (hname : name ∈ ["name", "devname", "devtype", "extended"]) :
    strayFiles.resolve (benchPath.entry name) =
      match strayEntries.lookup name with
      | none => .error .noEntry
      | some id => .ok ((RawPath.ofText name, id) :: benchPlace) := by
  have hall : ∀ name ∈ ["name", "devname", "devtype", "extended"],
      name ∈ benchNames ∧ strayEntries.lookup name ∈ [some 3, some 4, none] := by
    decide
  obtain ⟨hbench, hfile⟩ := hall name hname
  have hstep := (isBenchName hbench).isStep
  rw [← find?_entriesOf] at hfile ⊢
  refine FileSystem.resolve_entry isObjectAt_device.isOpen hstep (isObjectAt_device.isAskable hbench)
    resolve_stray rfl (isBenchName hbench).isPlain fun id target hid hlink => ?_
  rw [hid] at hfile
  rcases List.mem_cons.mp hfile with ⟨⟨⟩⟩ | hfile
  · cases hlink
  rcases List.mem_cons.mp hfile with ⟨⟨⟩⟩ | hfile
  · cases hlink
  · cases List.mem_singleton.mp hfile

/-- The link leads to a file, as if there were something in it. -/
theorem resolve_strayLink : strayFiles.resolve (benchPath.entry "standard") = .error .notDirectory := by
  have hstandard : "standard" ∈ benchNames := by decide
  have hstep := (isBenchName hstandard).isStep
  have hopen := isObjectAt_device.isOpen
  have hdevice : strayFiles.entries? (Place.node benchPlace) = some (entriesOf strayEntries) := rfl
  have hfile : strayFiles.entries? (Place.node ((RawPath.ofText "name", 3) :: benchPlace)) = none := rfl
  have hfind : (entriesOf strayEntries).find? (RawPath.ofText "standard") = some 5 :=
    find?_entriesOf strayEntries "standard"
  have htarget : (RawPath.ofText "name/x").components = [RawPath.ofText "name", RawPath.ofText "x"] := by
    decide
  have hlink : strayFiles.Step 1 ([RawPath.ofText "standard"], benchPlace)
      ((RawPath.ofText "name/x").components ++ [],
        if (RawPath.ofText "name/x").isAbsolute then [] else benchPlace) :=
    .link hdevice (isBenchName hstandard).isPlain hfind rfl
  rw [htarget, List.append_nil, if_neg (by decide)] at hlink
  have hleads : strayFiles.Leads 1
      (RawPath.ofText "devices" :: RawPath.ofText "z" :: [RawPath.ofText "standard"], [])
      ([RawPath.ofText "x"], (RawPath.ofText "name", 3) :: benchPlace) :=
    .step (holds_devices.step _) (.step (holds_z.step _)
      (.step hlink (.step (holds_name.step _) (.refl _))))
  have hcourse : strayFiles.course (benchPath.entry "standard") =
      (RawPath.ofText "devices" :: RawPath.ofText "z" :: [RawPath.ofText "standard"], []) := by
    refine Prod.ext ?_ rfl
    show (benchPath.join (RawPath.ofText "standard")).components = _
    rw [RawPath.components_join hopen hstep, components_benchPath]
    rfl
  rw [← hcourse] at hleads
  rw [FileSystem.resolve_eq strayFiles (isObjectAt_device.isAskable hstandard)
    (entry_ne_nil benchPath hstep)]
  show strayFiles.walk true (39 + 1) (strayFiles.course (benchPath.entry "standard")).1
    (strayFiles.course (benchPath.entry "standard")).2 >>= Arrival.place = _
  rw [hleads.walk_eq, FileSystem.walk, hfile]
  rfl

theorem resolve_strayFile : ∀ name ∈ [("name", 3), ("devname", 3), ("devtype", 4)],
    strayFiles.resolve (benchPath.entry name.1) =
      .ok ((RawPath.ofText name.1, name.2) :: benchPlace) := by
  have hall : ∀ name ∈ [("name", 3), ("devname", 3), ("devtype", 4)],
      name.1 ∈ ["name", "devname", "devtype", "extended"] ∧
        strayEntries.lookup name.1 = some name.2 := by
    decide
  intro name hname
  obtain ⟨hentry, hid⟩ := hall name hname
  rw [resolve_strayEntry hentry, hid]

/-- Entries that have texts for names begin as the texts do. -/
theorem not_prefix_of_mem_entriesOf {entries : List (String × NodeId)} {start : List Char} {name : Bytes}
    (hentries : ∀ entry ∈ entries, ¬ start <+: entry.1.toList) (hname : name ∈ (entriesOf entries).keys) :
    ¬ start <+: (RawPath.text name).toList := by
  rw [Table.keys, entriesOf, List.map_map] at hname
  obtain ⟨entry, hentry, rfl⟩ := List.mem_map.mp hname
  show ¬ start <+: (RawPath.text (RawPath.ofText entry.1)).toList
  rw [RawPath.text_ofText]
  exact hentries entry hentry

theorem hasDevice_stray : HasDevice strayFiles benchPath where
  toHasObject := .of_files
    ⟨isDirectoryIfFound_of_error resolve_strayLink,
      isDirectoryIfFound_of_error (resolve_strayEntry (by decide))⟩
    resolve_strayFile rfl rfl
  isDirectory := by
    rw [FileSystem.isDirectory, resolve_stray]
    rfl
  sets := by
    rintro set ⟨place, entries, name, hplace, hentries, hname, hstart, -, -⟩
    rw [resolve_stray] at hplace
    cases hplace
    cases hentries
    exact absurd hstart (not_prefix_of_mem_entriesOf (by decide) hname)

/-! ### A name that is no text -/

def rawName : Bytes := RawPath.ofText "cset" ++ [0xFF]

def rawDeviceEntries : List (String × NodeId) := [("name", 3), ("devname", 3), ("devtype", 4)]

def rawSetEntries : List (String × NodeId) := [("name", 3), ("devname", 3), ("devtype", 6)]

def rawFiles : FileSystem where
  nodes := [.directory (entriesOf [("devices", 1)]) 0o755,
    .directory (entriesOf [("z", 2)]) 0o755,
    .directory ⟨(rawName, 5) :: (entriesOf rawDeviceEntries).entries⟩ 0o755,
    .file (Text.Utf8.encode "z") 0o444,
    .file (Text.Utf8.encode ObjectKind.device.typeName) 0o444,
    .directory (entriesOf rawSetEntries) 0o755,
    .file (Text.Utf8.encode ObjectKind.channelSet.typeName) 0o444]

def rawBus : Bus KernelBus where
  store := { files := rawFiles, busRoot := RawPath.ofText "/", streamRoot := RawPath.ofText "/" }

def rawSet : RawPath := benchPath.join rawName

def rawSetPlace : Place := (rawName, 5) :: benchPlace

theorem find?_rawDevice {name : String} (hname : name ∈ benchNames) :
    Table.find? ⟨(rawName, 5) :: (entriesOf rawDeviceEntries).entries⟩ (RawPath.ofText name) =
      rawDeviceEntries.lookup name := by
  have hne : ∀ name ∈ benchNames, RawPath.ofText name ≠ rawName := by decide
  rw [Table.find?_cons, if_neg (hne name hname)]
  exact find?_entriesOf rawDeviceEntries name

theorem lacksLinks_raw : rawFiles.LacksLinks := by decide

theorem isObjectAt_rawDevice : IsObjectAt rawFiles benchPath benchPlace
    ⟨(rawName, 5) :: (entriesOf rawDeviceEntries).entries⟩ where
  lacksLinks := lacksLinks_raw
  isOpen := isObjectAt_device.isOpen
  isShort := isObjectAt_device.isShort
  resolve_eq := by
    rw [FileSystem.resolve_eq_look lacksLinks_raw (by decide)]
    decide
  entries_eq := rfl

theorem isObjectAt_rawSet : IsObjectAt rawFiles rawSet rawSetPlace (entriesOf rawSetEntries) where
  lacksLinks := lacksLinks_raw
  isOpen := ⟨by decide, by decide⟩
  isShort := by decide
  resolve_eq := by
    rw [FileSystem.resolve_eq_look lacksLinks_raw (by decide)]
    decide
  entries_eq := rfl

theorem canonical_raw : rawFiles.canonical benchPath = some benchPath := by
  have hlook : rawFiles.look benchPath.components (rawFiles.start benchPath) = .ok benchPlace := by
    decide
  have hpath : benchPlace.path = benchPath := by decide
  rw [FileSystem.canonical_eq_look lacksLinks_raw (by decide) hlook (by decide), hpath]

/-- An object with its files, and without groups. -/
theorem hasObject_raw {base : RawPath} {place : Place} {entries : Table Bytes NodeId}
    {items : List (String × NodeId)} {id : NodeId} (h : IsObjectAt rawFiles base place entries)
    (hfind : ∀ name ∈ benchNames, entries.find? (RawPath.ofText name) = items.lookup name)
    (hitems : items = [("name", 3), ("devname", 3), ("devtype", id)])
    (htype : rawFiles.node? id = some (.file (Text.Utf8.encode kind.typeName) 0o444)) :
    HasObject rawFiles base kind := by
  have hmissing {name : String} (hname : name ∈ benchNames) (hnone : items.lookup name = none) :
      IsDirectoryIfFound rawFiles (base.entry name) := by
    have hresolve := h.resolve hname
    rw [hfind name hname, hnone] at hresolve
    exact isDirectoryIfFound_of_error hresolve
  have hfound {name : String} {target : NodeId} (hname : name ∈ benchNames)
      (hsome : items.lookup name = some target) :
      rawFiles.resolve (base.entry name) = .ok ((RawPath.ofText name, target) :: place) := by
    rw [h.resolve hname, hfind name hname, hsome]
  subst hitems
  have hfiles : ∀ name ∈ [("name", 3), ("devname", 3), ("devtype", id)],
      rawFiles.resolve (base.entry name.1) = .ok ((RawPath.ofText name.1, name.2) :: place) := by
    intro name hname
    simp only [List.mem_cons, List.not_mem_nil, or_false] at hname
    rcases hname with rfl | rfl | rfl
    · exact hfound (show "name" ∈ benchNames by decide) rfl
    · exact hfound (show "devname" ∈ benchNames by decide) rfl
    · exact hfound (show "devtype" ∈ benchNames by decide) rfl
  exact .of_files ⟨hmissing (by decide) rfl, hmissing (by decide) rfl⟩ hfiles rfl htype

theorem hasDevice_raw : HasDevice rawFiles benchPath where
  toHasObject := hasObject_raw isObjectAt_rawDevice (fun _ => find?_rawDevice) rfl rfl
  isDirectory := by
    rw [FileSystem.isDirectory, isObjectAt_rawDevice.resolve_eq]
    rfl
  sets := by
    rintro set ⟨place, entries, name, hplace, hentries, hname, hstart, rfl, -⟩
    rw [isObjectAt_rawDevice.resolve_eq] at hplace
    cases hplace
    cases hentries
    rcases List.mem_cons.mp hname with rfl | hname
    · have hnone : (entriesOf rawSetEntries).find? (RawPath.ofText "trigger") = none :=
        find?_entriesOf rawSetEntries "trigger"
      have htrigger := isObjectAt_rawSet.resolve (show "trigger" ∈ benchNames by decide)
      rw [hnone] at htrigger
      have hbelow {group : String} (hgroup : group ∈ benchNames) :
          IsDirectoryIfFound rawFiles ((rawSet.entry "trigger").entry group) :=
        isDirectoryIfFound_of_error (isObjectAt_rawSet.resolve_below (by decide) hgroup hnone)
      refine ⟨hasObject_raw isObjectAt_rawSet (fun name _ => find?_entriesOf rawSetEntries name) rfl rfl,
        isDirectoryIfFound_of_error htrigger, ⟨hbelow (by decide), hbelow (by decide)⟩, ?_⟩
      rintro channel ⟨place, entries, name, hplace, hentries, hname, hstart, -, -⟩
      cases isObjectAt_rawSet.resolve_eq.symm.trans hplace
      cases isObjectAt_rawSet.entries_eq.symm.trans hentries
      exact not_prefix_of_mem_entriesOf (by decide) hname hstart
    · exact absurd hstart (not_prefix_of_mem_entriesOf (by decide) hname)

theorem isObjectIn_rawSet : IsObjectIn rawFiles benchPath "cset" rawSet := by
  refine ⟨benchPlace, _, rawName, isObjectAt_rawDevice.resolve_eq, rfl, List.mem_cons_self,
    by decide +kernel, rfl, ?_⟩
  rw [FileSystem.isDirectory, isObjectAt_rawSet.resolve_eq]
  rfl

/-- **There is a device, and it does not open.** In the first tree the link `standard` leads through a
file; in the second one the name of a channel-set is no text. -/
theorem openByName_refuses :
    (strayBus.store.files.canonical (devicePath strayBus "z") = some benchPath ∧
      HasDevice strayBus.store.files benchPath ∧
      ¬ ∃ record after, Backend.openByName "z" strayBus = (.ok record, after)) ∧
    rawBus.store.files.canonical (devicePath rawBus "z") = some benchPath ∧
      HasDevice rawBus.store.files benchPath ∧
      ¬ ∃ record after, Backend.openByName "z" rawBus = (.ok record, after) := by
  have hstray : devicePath strayBus "z" = benchPath := devicePath_bench
  have hraw : devicePath rawBus "z" = benchPath := devicePath_bench
  rw [hstray, hraw]
  refine ⟨⟨canonical_stray, hasDevice_stray, ?_⟩, canonical_raw, hasDevice_raw, ?_⟩
  · intro hopens
    obtain ⟨base, hbase, haccepts⟩ := exists_openNamed_iff.mp hopens
    rw [hstray] at hbase
    cases canonical_stray.symm.trans hbase
    have hgroup : strayFiles.IsGroup (benchPath.entry "standard") := haccepts.standard
    have hne := entry_ne_nil benchPath (isBenchName (show "standard" ∈ benchNames by decide)).isStep
    rw [FileSystem.isGroup_iff hne, FileSystem.isDirectory, resolve_strayLink] at hgroup
    rcases hgroup with hmissing | hdirectory
    · cases hmissing
    · cases hdirectory
  · intro hopens
    obtain ⟨base, hbase, haccepts⟩ := exists_openNamed_iff.mp hopens
    rw [hraw] at hbase
    cases canonical_raw.symm.trans hbase
    obtain ⟨place, content, mode, hplace, -⟩ := (haccepts.sets rawSet isObjectIn_rawSet).name
    have hmissed : rawFiles.resolve (RawPath.ofText (rawSet.entry "name").text) = .error .noEntry := by
      rw [FileSystem.resolve_eq_look lacksLinks_raw (by decide +kernel)]
      decide +kernel
    cases hmissed.symm.trans hplace

end DaqBus.KernelBus

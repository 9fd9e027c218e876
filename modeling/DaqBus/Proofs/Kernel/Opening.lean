import DaqBus.Kernel.Backend
import DaqBus.Proofs.Files.Look
import DaqBus.Proofs.Kernel.Scan

/-!
# Which devices can be opened

A device opens if its whole tree is in order, down to the streams of its channels, and then its record
shows the tree. Otherwise the failure is the first one on the way through the tree.
-/

namespace DaqBus.KernelBus

variable {fs : FileSystem} {streamRoot path base : RawPath} {start : String} {kind : ObjectKind}
  {direction : Direction}

/-! ### Trees that are in order -/

def IsReadable (fs : FileSystem) (path : String) : Prop :=
  ∃ place content mode, fs.resolve (RawPath.ofText path) = .ok place ∧
    fs.node? place.node = some (.file content mode)

/-- A directory can be opened as well, but only to be read. -/
def IsOpenable (fs : FileSystem) (path : RawPath) (direction : Direction) : Prop :=
  ∃ place, fs.resolve path = .ok place ∧ (direction = .output → fs.isDirectory path = false)

/-- A directory among those inside another whose names begin so. -/
def IsObjectIn (fs : FileSystem) (base : RawPath) (start : String) (path : RawPath) : Prop :=
  ∃ place entries name, fs.resolve base = .ok place ∧ fs.entries? place.node = some entries ∧
    name ∈ entries.keys ∧ start.toList <+: (RawPath.text name).toList ∧ path = base.join name ∧
    fs.isDirectory path = true

structure AcceptsAttributes (fs : FileSystem) (base : RawPath) : Prop where
  standard : fs.IsGroup (base.entry "standard")
  extended : fs.IsGroup (base.entry "extended")

/-- A trigger or a buffer, which may be missing. -/
structure AcceptsPart (fs : FileSystem) (base : RawPath) : Prop
    extends AcceptsAttributes fs base where
  isGroup : fs.IsGroup base

structure AcceptsObject (fs : FileSystem) (base : RawPath) (kind : ObjectKind) : Prop
    extends AcceptsAttributes fs base where
  name : IsReadable fs (base.entry "name").text
  deviceName : IsReadable fs (base.entry "devname").text
  typeName : ∃ text, attributeText fs (base.entry "devtype").text = .ok text ∧
    ObjectKind.ofTypeName text = kind

structure AcceptsChannel (fs : FileSystem) (streamRoot : RawPath) (direction : Direction)
    (base : RawPath) : Prop extends AcceptsObject fs base .channel where
  buffer : AcceptsPart fs (base.entry "buffer")
  data : IsOpenable fs (streamPath fs streamRoot base "data") direction
  control : IsOpenable fs (streamPath fs streamRoot base "ctrl") direction

structure AcceptsChannelSet (fs : FileSystem) (streamRoot base : RawPath) : Prop
    extends AcceptsObject fs base .channelSet where
  trigger : AcceptsPart fs (base.entry "trigger")
  channels : ∀ channel, IsObjectIn fs base "chan" channel →
    AcceptsChannel fs streamRoot (scanDirection fs base) channel

structure AcceptsDevice (fs : FileSystem) (streamRoot base : RawPath) : Prop
    extends AcceptsObject fs base .device where
  isDirectory : fs.isDirectory base = true
  sets : ∀ set, IsObjectIn fs base "cset" set → AcceptsChannelSet fs streamRoot set

/-! ### Questions without a fault -/

theorem firstFault_eq_none_iff {checks : List Check} :
    firstFault fs checks = none ↔ ∀ check ∈ checks, check.fault fs = none :=
  List.findSome?_eq_none_iff

theorem fault_group_eq_none_iff (hne : path ≠ []) :
    (Check.group path).fault fs = none ↔ fs.IsGroup path := by
  rw [FileSystem.isGroup_iff hne]
  cases hresolve : fs.resolve path with
  | error code =>
      simp only [Check.fault, FileSystem.isDirectory, hresolve]
      by_cases hcode : code = .noEntry
      · simp [hcode]
      · simp [hcode]
  | ok place =>
      simp [Check.fault, hresolve]

theorem fault_readable_eq_none_iff {path : String} :
    (Check.readable path).fault fs = none ↔ IsReadable fs path := by
  rw [IsReadable]
  cases hresolve : fs.resolve (RawPath.ofText path) with
  | error code => simp [Check.fault, hresolve]
  | ok place =>
      simp only [Check.fault, hresolve]
      cases hnode : fs.node? place.node with
      | none => simp [hnode]
      | some node => cases node <;> simp [hnode]

theorem fault_typed_eq_none_iff {path : String} :
    (Check.typed path kind).fault fs = none ↔
      ∃ text, attributeText fs path = .ok text ∧ ObjectKind.ofTypeName text = kind := by
  cases htext : attributeText fs path with
  | error code => simp [Check.fault, htext]
  | ok text => simp [Check.fault, htext]

theorem fault_stream_eq_none_iff :
    (Check.stream path direction).fault fs = none ↔ IsOpenable fs path direction := by
  rw [IsOpenable]
  cases hresolve : fs.resolve path with
  | error code => simp [Check.fault, hresolve]
  | ok place => simp [Check.fault, hresolve]

theorem isReadable_of_attributeText {path text : String} (h : attributeText fs path = .ok text) :
    IsReadable fs path := by
  have hanswer := answers_attributeText fs path
  rw [h] at hanswer
  rw [← fault_readable_eq_none_iff, ← firstFault_singleton]
  exact hanswer.1

theorem attributeText_of_typeName {path : String} {place : Place} {mode : UInt32}
    (hplace : fs.resolve (RawPath.ofText path) = .ok place)
    (hfile : fs.node? place.node = some (.file (Text.Utf8.encode kind.typeName) mode)) :
    attributeText fs path = .ok kind.typeName := by
  have hdecode : Text.trimNewlines (Text.Utf8.decode
      ((Text.Utf8.encode kind.typeName).take Backend.textLimit)) = kind.typeName := by
    cases kind <;> decide +kernel
  rw [attributeText_eq, readBytes_eq _ _ (by decide), hplace]
  dsimp only
  rw [hfile]
  exact congrArg Except.ok hdecode

theorem attributeChecks_eq_none_iff :
    firstFault fs (attributeChecks base) = none ↔ AcceptsAttributes fs base := by
  simp only [firstFault_eq_none_iff, attributeChecks, List.forall_mem_cons]
  rw [fault_group_eq_none_iff (entry_ne_nil base ⟨by decide, by decide⟩),
    fault_group_eq_none_iff (entry_ne_nil base ⟨by decide, by decide⟩)]
  constructor
  · rintro ⟨hstandard, hextended, -⟩
    exact ⟨hstandard, hextended⟩
  · intro h
    exact ⟨h.standard, h.extended, List.forall_mem_nil _⟩

/-- The attributes of a part tell whether the part itself is in order. -/
theorem partChecks_eq_none_iff {name : String} (hname : RawPath.IsStep (RawPath.ofText name)) :
    firstFault fs (attributeChecks (base.entry name)) = none ↔ AcceptsPart fs (base.entry name) := by
  rw [attributeChecks_eq_none_iff]
  constructor
  · intro h
    exact ⟨h, h.standard.of_join (hname.isOpen_join base) ⟨by decide, by decide⟩⟩
  · exact fun h => h.toAcceptsAttributes

theorem firstFault_append_eq_none_iff {checks more : List Check} :
    firstFault fs (checks ++ more) = none ↔ firstFault fs checks = none ∧ firstFault fs more = none := by
  rw [firstFault_append, Option.or_eq_none_iff]

theorem objectChecks_eq_none_iff :
    firstFault fs (objectChecks base kind) = none ↔ AcceptsObject fs base kind := by
  rw [objectChecks, identityChecks, List.append_assoc, firstFault_append_eq_none_iff,
    attributeChecks_eq_none_iff]
  simp only [firstFault_eq_none_iff, List.cons_append, List.nil_append, List.forall_mem_cons,
    fault_readable_eq_none_iff, fault_typed_eq_none_iff]
  constructor
  · rintro ⟨hattributes, hname, hdeviceName, -, htypeName, -⟩
    exact ⟨hattributes, hname, hdeviceName, htypeName⟩
  · -- The type file is asked for twice: whether it is readable, and what it says.
    intro h
    obtain ⟨text, htext, -⟩ := h.typeName
    exact ⟨h.toAcceptsAttributes, h.name, h.deviceName, isReadable_of_attributeText htext, h.typeName,
      List.forall_mem_nil _⟩

theorem channelChecks_eq_none_iff :
    firstFault fs (channelChecks fs streamRoot direction base) = none ↔
      AcceptsChannel fs streamRoot direction base := by
  rw [channelChecks, firstFault_append_eq_none_iff, firstFault_append_eq_none_iff,
    objectChecks_eq_none_iff, partChecks_eq_none_iff ⟨by decide, by decide⟩]
  simp only [firstFault_eq_none_iff, List.forall_mem_cons, fault_stream_eq_none_iff]
  constructor
  · rintro ⟨⟨hobject, hbuffer⟩, hdata, hcontrol, -⟩
    exact ⟨hobject, hbuffer, hdata, hcontrol⟩
  · intro h
    exact ⟨⟨h.toAcceptsObject, h.buffer⟩, h.data, h.control, List.forall_mem_nil _⟩

theorem mem_children_iff {child : RawPath} :
    child ∈ children fs base start ↔ IsObjectIn fs base start child := by
  rw [children, List.mem_map]
  rcases names_cases fs base with ⟨code, hresolve, hnames⟩ | ⟨place, hresolve, hentries, hnames⟩ |
    ⟨place, entries, hresolve, hentries, hnames⟩
  · simp [IsObjectIn, hnames, hresolve, Except.toOption]
  · simp [IsObjectIn, hnames, hresolve, hentries, Except.toOption]
  · simp only [hnames, Except.toOption, Option.getD_some, List.mem_filter, List.mem_mergeSort, isChild,
      Bool.and_eq_true, List.isPrefixOf_iff_prefix]
    constructor
    · rintro ⟨name, ⟨hname, hstart, hdirectory⟩, rfl⟩
      exact ⟨place, entries, name, hresolve, hentries, hname, hstart, rfl, hdirectory⟩
    · rintro ⟨other, found, name, hother, hfound, hname, hstart, rfl, hdirectory⟩
      rw [hresolve] at hother
      cases hother
      rw [hentries] at hfound
      cases hfound
      exact ⟨name, ⟨hname, hstart, hdirectory⟩, rfl⟩

theorem exists_of_forall₂ {α β : Type} {related : α → β → Prop} {xs : List α} {ys : List β}
    (h : List.Forall₂ related xs ys) {x : α} (hmem : x ∈ xs) : ∃ y ∈ ys, related x y := by
  induction h with
  | nil => cases hmem
  | @cons first second xs ys hfirst _ ih =>
      rcases List.mem_cons.mp hmem with rfl | hlater
      · exact ⟨second, List.mem_cons_self, hfirst⟩
      · obtain ⟨y, hy, hrelated⟩ := ih hlater
        exact ⟨y, List.mem_cons_of_mem second hy, hrelated⟩

/-- No object is left out. -/
theorem ShowsChildren.exists_record {α : Type} {shows : RawPath → α → Prop} {records : List α}
    (h : ShowsChildren fs base start shows records) {child : RawPath}
    (hchild : IsObjectIn fs base start child) : ∃ record ∈ records, shows child record := by
  obtain ⟨place, entries, name, hresolve, hentries, hname, hstart, rfl, hdirectory⟩ := hchild
  obtain ⟨names, ⟨⟨other, found, hother, hfound, hperm⟩, -⟩, hall⟩ := h
  rw [hresolve] at hother
  cases hother
  rw [hentries] at hfound
  cases hfound
  have hselect : isChild fs base start name = true := by
    rw [isChild, Bool.and_eq_true, List.isPrefixOf_iff_prefix]
    exact ⟨hstart, hdirectory⟩
  have hmem : name ∈ names := hperm.mem_iff.mpr (List.mem_filter.mpr ⟨hname, hselect⟩)
  exact exists_of_forall₂ hall (List.mem_map_of_mem hmem)

theorem childChecks_eq_none_iff {questions : RawPath → List Check} {accepts : RawPath → Prop}
    (h : ∀ child, firstFault fs (questions child) = none ↔ accepts child) :
    firstFault fs ((children fs base start).flatMap questions) = none ↔
      ∀ child, IsObjectIn fs base start child → accepts child := by
  simp only [firstFault_eq_none_iff] at h ⊢
  constructor
  · intro hall child hchild
    rw [← h]
    intro check hcheck
    exact hall check (List.mem_flatMap.mpr ⟨child, mem_children_iff.mpr hchild, hcheck⟩)
  · intro hall check hmem
    obtain ⟨child, hchild, hcheck⟩ := List.mem_flatMap.mp hmem
    exact (h child).mpr (hall child (mem_children_iff.mp hchild)) check hcheck

theorem channelSetChecks_eq_none_iff :
    firstFault fs (channelSetChecks fs streamRoot base) = none ↔
      AcceptsChannelSet fs streamRoot base := by
  rw [channelSetChecks, firstFault_append_eq_none_iff, firstFault_append_eq_none_iff,
    objectChecks_eq_none_iff, partChecks_eq_none_iff ⟨by decide, by decide⟩,
    childChecks_eq_none_iff fun _ => channelChecks_eq_none_iff]
  constructor
  · rintro ⟨⟨hobject, htrigger⟩, hchannels⟩
    exact ⟨hobject, htrigger, hchannels⟩
  · intro h
    exact ⟨⟨h.toAcceptsObject, h.trigger⟩, h.channels⟩

theorem deviceChecks_eq_none_iff :
    firstFault fs (deviceChecks fs streamRoot path) = none ↔
      ∃ base, fs.canonical path = some base ∧ AcceptsDevice fs streamRoot base := by
  have hroot : (Check.root path).fault fs = none ↔
      ∃ base, fs.canonical path = some base ∧ fs.isDirectory base = true := by
    cases hcanonical : fs.canonical path <;> simp [Check.fault, hcanonical]
  rw [deviceChecks, ← List.singleton_append, firstFault_append_eq_none_iff, firstFault_singleton, hroot]
  constructor
  · rintro ⟨⟨base, hcanonical, hdirectory⟩, hrest⟩
    rw [hcanonical, firstFault_append_eq_none_iff, objectChecks_eq_none_iff,
      childChecks_eq_none_iff fun _ => channelSetChecks_eq_none_iff] at hrest
    exact ⟨base, hcanonical, hrest.1, hdirectory, hrest.2⟩
  · rintro ⟨base, hcanonical, h⟩
    rw [hcanonical, firstFault_append_eq_none_iff, objectChecks_eq_none_iff,
      childChecks_eq_none_iff fun _ => channelSetChecks_eq_none_iff]
    exact ⟨⟨base, rfl, h.isDirectory⟩, h.toAcceptsObject, h.sets⟩

/-! ### Opening -/

variable {key : String} {bus : Bus KernelBus}

/-- The path of a device before links are followed. -/
def devicePath (bus : Bus KernelBus) (key : String) : RawPath :=
  bus.store.devicesPath.entry key

theorem answers_openNamed (key : String) (bus : Bus KernelBus) :
    Answers bus.store.files (openNamed key bus).1
      (deviceChecks bus.store.files bus.store.streamRoot (devicePath bus key)) fun record =>
        ∃ base, bus.store.files.canonical (devicePath bus key) = some base ∧
          ShowsDevice bus.store.files base record := by
  have hscan := meets_scanDevice bus.store.files bus.store.streamRoot (devicePath bus key)
    { handles := bus.store.handles }
  unfold openNamed
  rw [devicePath] at hscan ⊢
  dsimp only
  generalize scanDevice _ _ _ _ = result at hscan ⊢
  obtain ⟨code | found, scanned⟩ := result
  · exact hscan
  · exact hscan

theorem exists_openNamed_iff :
    (∃ record after, openNamed key bus = (.ok record, after)) ↔
      ∃ base, bus.store.files.canonical (devicePath bus key) = some base ∧
        AcceptsDevice bus.store.files bus.store.streamRoot base := by
  have hanswer := answers_openNamed key bus
  rw [← deviceChecks_eq_none_iff]
  constructor
  · rintro ⟨record, after, hopen⟩
    rw [hopen] at hanswer
    exact hanswer.1
  · intro hnone
    rcases hopen : openNamed key bus with ⟨code | record, after⟩
    · rw [hopen] at hanswer
      have hfault : firstFault _ _ = some code := hanswer
      rw [hnone] at hfault
      cases hfault
    · exact ⟨record, after, rfl⟩

theorem showsDevice_of_openNamed {record : DeviceRecord} {after : Bus KernelBus}
    (hopen : openNamed key bus = (.ok record, after)) :
    ∃ base, bus.store.files.canonical (devicePath bus key) = some base ∧
      ShowsDevice bus.store.files base record := by
  have hanswer := answers_openNamed key bus
  rw [hopen] at hanswer
  exact hanswer.2

/-! ### A device of eleven channel-sets

None of them has a channel, a trigger or an attribute. -/

/-- Entries that have texts for names. -/
def entriesOf (entries : List (String × NodeId)) : Table Bytes NodeId :=
  ⟨entries.map fun entry => (RawPath.ofText entry.1, entry.2)⟩

theorem find?_entriesOf (entries : List (String × NodeId)) (name : String) :
    (entriesOf entries).find? (RawPath.ofText name) = entries.lookup name := by
  induction entries with
  | nil => rfl
  | cons entry entries ih =>
      obtain ⟨other, id⟩ := entry
      have hfind := Table.find?_cons (RawPath.ofText other) id (entriesOf entries).entries
        (RawPath.ofText name)
      refine hfind.trans ?_
      by_cases hname : name = other
      · simp [hname]
      · rw [if_neg (mt RawPath.ofText_injective hname), List.lookup_cons, beq_eq_false_iff_ne.mpr hname]
        exact ih

def benchSets : List String := (List.range 11).map fun i => s!"cset{i}"

def benchDeviceEntries : List (String × NodeId) :=
  [("name", 3), ("devname", 3), ("devtype", 4)] ++ benchSets.zipIdx 6

def benchSetEntries : List (String × NodeId) :=
  [("name", 3), ("devname", 3), ("devtype", 5)]

def benchFiles : FileSystem where
  nodes := [.directory (entriesOf [("devices", 1)]) 0o755,
    .directory (entriesOf [("z", 2)]) 0o755,
    .directory (entriesOf benchDeviceEntries) 0o755,
    .file (Text.Utf8.encode "z") 0o444,
    .file (Text.Utf8.encode "zio_zdev_type") 0o444,
    .file (Text.Utf8.encode "zio_cset_type") 0o444] ++
      List.replicate 11 (.directory (entriesOf benchSetEntries) 0o755)

def bench : Bus KernelBus where
  store := { files := benchFiles, busRoot := RawPath.ofText "/", streamRoot := RawPath.ofText "/" }

def benchPath : RawPath := RawPath.ofText "/devices/z"

def benchPlace : Place := [(RawPath.ofText "z", 2), (RawPath.ofText "devices", 1)]

theorem resolve_device : benchFiles.resolve benchPath = .ok benchPlace := by
  have hlinks : benchFiles.LacksLinks := by decide
  rw [FileSystem.resolve_eq_look hlinks (by decide)]
  decide

def benchNames : List String :=
  ["standard", "extended", "name", "devname", "devtype", "trigger"] ++ benchSets

structure IsBenchName (name : String) : Prop where
  isStep : RawPath.IsStep (RawPath.ofText name)
  isPlain : FileSystem.IsPlain (RawPath.ofText name)
  isShort : (RawPath.ofText name).contains 0 = false ∧ (RawPath.ofText name).length < 10

theorem isBenchName {name : String} (hname : name ∈ benchNames) : IsBenchName name := by
  have hall : ∀ name ∈ benchNames, RawPath.IsStep (RawPath.ofText name) ∧
      (RawPath.ofText name ≠ RawPath.here ∧ RawPath.ofText name ≠ RawPath.up ∧
        (RawPath.ofText name).length ≤ FileSystem.nameLimit) ∧
      (RawPath.ofText name).contains 0 = false ∧ (RawPath.ofText name).length < 10 := by
    decide
  obtain ⟨hstep, hplain, hshort⟩ := hall name hname
  exact ⟨hstep, hplain, hshort⟩

/-- A directory that a scan asks for its entries, where no link leads anywhere. -/
structure IsObjectAt (fs : FileSystem) (base : RawPath) (place : Place) (entries : Table Bytes NodeId) :
    Prop where
  lacksLinks : fs.LacksLinks
  isOpen : RawPath.IsOpen base
  isShort : base.contains 0 = false ∧ base.length < 100
  resolve_eq : fs.resolve base = .ok place
  entries_eq : fs.entries? place.node = some entries

section Objects

variable {fs : FileSystem} {place : Place} {entries : Table Bytes NodeId} {name : String} {id : NodeId}
  {mode : UInt32}

theorem IsObjectAt.isAskable (h : IsObjectAt fs base place entries) (hname : name ∈ benchNames) :
    RawPath.IsAskable (base.entry name) := by
  obtain ⟨hstep, -, hzero, hshort⟩ := isBenchName hname
  refine (RawPath.isAskable_join_iff h.isOpen hstep).mpr ⟨h.isShort.1, hzero, ?_⟩
  have hlimit : FileSystem.pathLimit = 4096 := rfl
  have hbase := h.isShort.2
  omega

theorem IsObjectAt.resolve (h : IsObjectAt fs base place entries) (hname : name ∈ benchNames) :
    fs.resolve (base.entry name) =
      match entries.find? (RawPath.ofText name) with
      | none => .error .noEntry
      | some id => .ok ((RawPath.ofText name, id) :: place) := by
  obtain ⟨hstep, hplain, -⟩ := isBenchName hname
  exact FileSystem.resolve_entry h.isOpen hstep (h.isAskable hname) h.resolve_eq h.entries_eq
    hplain fun id target _ => h.lacksLinks.node?_ne_link id target

/-- Nothing is found below an entry that is not there. -/
theorem IsObjectAt.resolve_below (h : IsObjectAt fs base place entries) {part : String}
    (hpart : part ∈ benchNames) (hname : name ∈ benchNames)
    (hnone : entries.find? (RawPath.ofText part) = none) :
    fs.resolve ((base.entry part).entry name) = .error .noEntry := by
  have hopen := (isBenchName hpart).isStep.isOpen_join base
  have hsize := h.isOpen.length_join (isBenchName hpart).isStep
  obtain ⟨hstep, -, hzero, hshort⟩ := isBenchName hname
  have hask : RawPath.IsAskable ((base.entry part).entry name) := by
    refine (RawPath.isAskable_join_iff hopen hstep).mpr ⟨(h.isAskable hpart).no_zero, hzero, ?_⟩
    have hlimit : FileSystem.pathLimit = 4096 := rfl
    have hbase := h.isShort.2
    have hless := (isBenchName hpart).isShort.2
    omega
  obtain ⟨left, hbelow⟩ := fs.resolve_join hopen hstep hask
  have hentry : fs.resolve (base.join (RawPath.ofText part)) = _ := h.resolve hpart
  rw [RawPath.entry, RawPath.entry, hbelow, hentry, hnone]
  rfl

theorem IsObjectAt.isGroup (h : IsObjectAt fs base place entries) (hname : name ∈ benchNames)
    (hnone : entries.find? (RawPath.ofText name) = none) : fs.IsGroup (base.entry name) := by
  rw [FileSystem.isGroup_iff (entry_ne_nil base (isBenchName hname).isStep)]
  left
  rw [h.resolve hname, hnone]

theorem IsObjectAt.isGroup_below (h : IsObjectAt fs base place entries) {part : String}
    (hpart : part ∈ benchNames) (hname : name ∈ benchNames)
    (hnone : entries.find? (RawPath.ofText part) = none) :
    fs.IsGroup ((base.entry part).entry name) := by
  rw [FileSystem.isGroup_iff (entry_ne_nil _ (isBenchName hname).isStep)]
  exact .inl (h.resolve_below hpart hname hnone)

theorem IsObjectAt.text_entry (h : IsObjectAt fs base place entries)
    (htext : RawPath.ofText base.text = base) (hname : name ∈ benchNames) :
    RawPath.ofText (base.entry name).text = base.entry name :=
  RawPath.ofText_text_entry h.isOpen (isBenchName hname).isStep htext

theorem IsObjectAt.isReadable (h : IsObjectAt fs base place entries)
    (htext : RawPath.ofText base.text = base) {content : Bytes} (hname : name ∈ benchNames)
    (hid : entries.find? (RawPath.ofText name) = some id)
    (hfile : fs.node? id = some (.file content mode)) : IsReadable fs (base.entry name).text := by
  have hresolve := h.resolve hname
  rw [hid] at hresolve
  refine ⟨(RawPath.ofText name, id) :: place, content, mode, ?_, hfile⟩
  rw [h.text_entry htext hname]
  exact hresolve

theorem IsObjectAt.typeName (h : IsObjectAt fs base place entries)
    (htext : RawPath.ofText base.text = base)
    (hid : entries.find? (RawPath.ofText "devtype") = some id)
    (hfile : fs.node? id = some (.file (Text.Utf8.encode kind.typeName) mode)) :
    attributeText fs (base.entry "devtype").text = .ok kind.typeName := by
  have hname : "devtype" ∈ benchNames := by decide
  have hresolve := h.resolve hname
  rw [hid, ← h.text_entry htext hname] at hresolve
  exact attributeText_of_typeName hresolve hfile

theorem IsObjectAt.accepts (h : IsObjectAt fs base place entries)
    (htext : RawPath.ofText base.text = base)
    (hgroups : entries.find? (RawPath.ofText "standard") = none ∧
      entries.find? (RawPath.ofText "extended") = none)
    (hnames : entries.find? (RawPath.ofText "name") = some 3 ∧
      entries.find? (RawPath.ofText "devname") = some 3)
    (hid : entries.find? (RawPath.ofText "devtype") = some id)
    (hname : fs.node? 3 = some (.file (Text.Utf8.encode "z") 0o444))
    (htype : fs.node? id = some (.file (Text.Utf8.encode kind.typeName) mode)) :
    AcceptsObject fs base kind where
  standard := h.isGroup (by decide) hgroups.1
  extended := h.isGroup (by decide) hgroups.2
  name := h.isReadable htext (by decide) hnames.1 hname
  deviceName := h.isReadable htext (by decide) hnames.2 hname
  typeName := ⟨kind.typeName, h.typeName htext hid htype, ObjectKind.ofTypeName_typeName kind⟩

end Objects

theorem components_benchPath :
    benchPath.components = [RawPath.ofText "devices", RawPath.ofText "z"] := by
  decide

theorem isPlain_benchPath : ∀ name ∈ ["devices", "z"], FileSystem.IsPlain (RawPath.ofText name) := by
  unfold FileSystem.IsPlain
  decide

theorem isText_benchPath : RawPath.ofText benchPath.text = benchPath :=
  congrArg RawPath.ofText (RawPath.text_ofText _)

theorem isObjectAt_device : IsObjectAt benchFiles benchPath benchPlace (entriesOf benchDeviceEntries) where
  lacksLinks := by decide
  isOpen := ⟨by decide, by decide⟩
  isShort := by decide
  resolve_eq := resolve_device
  entries_eq := rfl

theorem isAskable_benchPath : RawPath.IsAskable benchPath :=
  ⟨isObjectAt_device.isShort.1, lt_trans isObjectAt_device.isShort.2 (by decide)⟩

theorem isObjectAt_set {set : String} {id : NodeId} (hset : (set, id) ∈ benchSets.zipIdx 6) :
    IsObjectAt benchFiles (benchPath.entry set) ((RawPath.ofText set, id) :: benchPlace)
      (entriesOf benchSetEntries) := by
  have hmem : set ∈ benchSets := List.fst_mem_of_mem_zipIdx hset
  have hname : set ∈ benchNames := List.mem_append_right _ hmem
  have hall : ∀ entry ∈ benchSets.zipIdx 6,
      (entriesOf benchDeviceEntries).find? (RawPath.ofText entry.1) = some entry.2 ∧
      benchFiles.entries? entry.2 = some (entriesOf benchSetEntries) := by
    decide
  have hask := isObjectAt_device.isAskable hname
  have hlength := isObjectAt_device.isOpen.length_join (isBenchName hname).isStep
  have hresolve := isObjectAt_device.resolve hname
  obtain ⟨hfind, hentries⟩ := hall _ hset
  rw [hfind] at hresolve
  refine ⟨isObjectAt_device.lacksLinks, (isBenchName hname).isStep.isOpen_join _, ⟨hask.no_zero, ?_⟩,
    hresolve, hentries⟩
  have hbase : benchPath.length = 10 := by decide
  have hshort := (isBenchName hname).isShort.2
  rw [RawPath.entry, hlength]
  omega

theorem acceptsPart_trigger {set : String} {id : NodeId} (hset : (set, id) ∈ benchSets.zipIdx 6) :
    AcceptsPart benchFiles ((benchPath.entry set).entry "trigger") := by
  have hobject := isObjectAt_set hset
  have hnone : (entriesOf benchSetEntries).find? (RawPath.ofText "trigger") = none := by decide
  rw [← partChecks_eq_none_iff (isBenchName (by decide)).isStep, attributeChecks_eq_none_iff]
  exact ⟨hobject.isGroup_below (by decide) (by decide) hnone,
    hobject.isGroup_below (by decide) (by decide) hnone⟩

theorem acceptsDevice_bench : AcceptsDevice benchFiles (RawPath.ofText "/") benchPath where
  toAcceptsObject := isObjectAt_device.accepts isText_benchPath (by decide) (by decide)
    (show _ = some 4 by decide) rfl rfl
  isDirectory := by
    rw [FileSystem.isDirectory, resolve_device]
    rfl
  sets := by
    rintro set ⟨place, entries, name, hplace, hentries, hname, hstart, rfl, -⟩
    rw [resolve_device] at hplace
    cases hplace
    cases hentries
    obtain ⟨entry, hentry, rfl⟩ := List.mem_map.mp hname
    obtain ⟨⟨set, id⟩, hset, rfl⟩ := List.mem_map.mp hentry
    have hsets : ∀ entry ∈ benchDeviceEntries,
        "cset".toList <+: (RawPath.text (RawPath.ofText entry.1)).toList →
          entry ∈ benchSets.zipIdx 6 := by decide +kernel
    replace hset := hsets (set, id) hset hstart
    have hobject := isObjectAt_set hset
    have htext := isObjectAt_device.text_entry isText_benchPath
      (List.mem_append_right _ (List.fst_mem_of_mem_zipIdx hset))
    refine ⟨hobject.accepts htext (by decide) (by decide)
      (show _ = some 5 by decide) rfl rfl, acceptsPart_trigger hset, ?_⟩
    rintro channel ⟨place, entries, name, hplace, hentries, hname, hstart, -, -⟩
    rw [show benchPath.join (RawPath.ofText set) = benchPath.entry set from rfl,
      hobject.resolve_eq] at hplace
    cases hplace
    rw [hobject.entries_eq] at hentries
    cases hentries
    have hnone : ∀ name ∈ (entriesOf benchSetEntries).keys,
        ¬ "chan".toList <+: (RawPath.text name).toList := by decide +kernel
    exact absurd hstart (hnone name hname)

theorem canonical_device : benchFiles.canonical benchPath = some benchPath := by
  have hlook : benchFiles.look benchPath.components (benchFiles.start benchPath) = .ok benchPlace := by
    decide
  have hpath : benchPlace.path = benchPath := by decide
  rw [FileSystem.canonical_eq_look isObjectAt_device.lacksLinks (by decide) hlook (by decide), hpath]

theorem devicePath_bench : devicePath bench "z" = benchPath := by
  decide

theorem canonical_bench : bench.store.files.canonical (devicePath bench "z") = some benchPath := by
  rw [devicePath_bench]
  exact canonical_device

theorem exists_openNamed_bench : ∃ record after, openNamed "z" bench = (.ok record, after) :=
  exists_openNamed_iff.mpr ⟨benchPath, canonical_bench, acceptsDevice_bench⟩

/-- **What opening a device says about its tree.** It opens if the tree is in order, and then the
record shows the tree. If not, the failure is the first fault on the way. -/
theorem openByName_spec (key : String) (bus : Bus KernelBus) :
    ((∃ record after, Backend.openByName key bus = (.ok record, after)) ↔
      ∃ base, bus.store.files.canonical (devicePath bus key) = some base ∧
        AcceptsDevice bus.store.files bus.store.streamRoot base) ∧
    (∀ record after, Backend.openByName key bus = (.ok record, after) →
      ∃ base, bus.store.files.canonical (devicePath bus key) = some base ∧
        ShowsDevice bus.store.files base record) ∧
    (∀ code after, Backend.openByName key bus = (.error code, after) →
      firstFault bus.store.files
        (deviceChecks bus.store.files bus.store.streamRoot (devicePath bus key)) = some code) ∧
    ∀ name id, Backend.openById name id bus = Backend.openByName (instanceName name id) bus := by
  refine ⟨exists_openNamed_iff, fun record after => showsDevice_of_openNamed, ?_, fun _ _ => rfl⟩
  intro code after hopen
  have hanswer := answers_openNamed key bus
  have hfailed : (openNamed key bus).1 = .error code := congrArg Prod.fst hopen
  rw [hfailed] at hanswer
  exact hanswer

theorem openByName_spec_bench : ∃ record after,
    Backend.openByName "z" bench = (.ok record, after) ∧
      ShowsDevice benchFiles benchPath record := by
  obtain ⟨hopens, hshows, -, -⟩ := openByName_spec "z" bench
  obtain ⟨record, after, hopen⟩ := hopens.mpr ⟨benchPath, canonical_bench, acceptsDevice_bench⟩
  obtain ⟨base, hbase, hrecord⟩ := hshows record after hopen
  rw [canonical_bench] at hbase
  cases hbase
  exact ⟨record, after, hopen, hrecord⟩

end DaqBus.KernelBus

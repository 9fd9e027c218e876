import DaqBus.Proofs.Files.Way
import DaqBus.Proofs.Kernel.Answers

/-!
# What a scan shows

The record of a device has the shape of its directory: one object for every directory that is one, in
the order of the bytes of their names, each with what its identity files say and with the paths of
its attributes. Paths stand in it as texts, and the identity files are those at the texts.
-/

namespace DaqBus.KernelBus

variable {fs : FileSystem} {streamRoot path base : RawPath} {start : String} {kind : ObjectKind}
  {direction : Direction}

/-! ### Records that show a directory -/

/-- The entries of a directory in slots, and nothing where there is no directory. -/
def ShowsGroup {n : Nat} (fs : FileSystem) (directory : RawPath) (slots : Slots n) : Prop :=
  ∃ names, ((fs.IsMissing directory ∧ names = []) ∨ Lists fs directory (fun _ => true) names) ∧
    ∀ i : Fin n, slots[i] = (names[i]?.map fun name => (directory.join name).text).getD ""

structure ShowsAttributes (fs : FileSystem) (base : RawPath) (head : HeadRecord) : Prop where
  base_eq : head.base = base.text
  standard : ShowsGroup fs (base.entry "standard") head.standard
  extended : ShowsGroup fs (base.entry "extended") head.extended

structure ShowsIdentity (fs : FileSystem) (base : RawPath) (head : HeadRecord) : Prop
    extends ShowsAttributes fs base head where
  name : attributeText fs (base.entry "name").text = .ok head.name
  deviceName : attributeText fs (base.entry "devname").text = .ok head.deviceName
  typeName : ∃ text, attributeText fs (base.entry "devtype").text = .ok text ∧
    head.kind = ObjectKind.ofTypeName text
  enable : head.enable = (base.entry "enable").text

structure ShowsObject (fs : FileSystem) (base : RawPath) (kind : ObjectKind) (head : HeadRecord) : Prop
    extends ShowsIdentity fs base head where
  kind_eq : head.kind = kind

/-- One record for each of the objects inside a directory. -/
def ShowsChildren {α : Type} (fs : FileSystem) (base : RawPath) (start : String)
    (shows : RawPath → α → Prop) (records : List α) : Prop :=
  ∃ names, Lists fs base (isChild fs base start) names ∧
    List.Forall₂ shows (names.map base.join) records

structure ShowsChannel (fs : FileSystem) (direction : Direction) (base : RawPath)
    (record : ChannelRecord) : Prop where
  head : ShowsObject fs base .channel record.head
  buffer : ShowsAttributes fs (base.entry "buffer") record.buffer.head
  direction_eq : record.streams.direction = direction

structure ShowsChannelSet (fs : FileSystem) (base : RawPath) (record : ChannelSetRecord) : Prop where
  head : ShowsObject fs base .channelSet record.head
  direction_eq : record.direction = scanDirection fs base
  trigger : ShowsAttributes fs (base.entry "trigger") record.trigger.head
  channels : ShowsChildren fs base "chan" (ShowsChannel fs record.direction) record.channels

structure ShowsDevice (fs : FileSystem) (base : RawPath) (record : DeviceRecord) : Prop where
  head : ShowsObject fs base .device record.head
  sets : ShowsChildren fs base "cset" (ShowsChannelSet fs) record.sets

/-! ### Parts of an object -/

theorem answers_entryPaths (fs : FileSystem) {directory : RawPath} (hne : directory ≠ [])
    (capacity : Nat) :
    Answers fs (entryPaths fs directory capacity) [.group directory] fun paths =>
      ShowsGroup fs directory (Slots.ofList capacity paths) := by
  unfold entryPaths
  have hfault := firstFault_singleton fs (.group directory)
  rcases names_cases fs directory with ⟨code, hresolve, hnames⟩ | ⟨place, hresolve, hentries, hnames⟩ |
    ⟨place, entries, hresolve, hentries, hnames⟩
  · simp only [Check.fault, hresolve] at hfault
    rw [hnames]
    by_cases hcode : code = .noEntry
    · subst hcode
      have hmissing := ((FileSystem.resolve_eq_noEntry_iff hne).mp hresolve).2
      exact ⟨hfault, [], .inl ⟨hmissing, rfl⟩, fun i => by simp [Slots.ofList]⟩
    · rw [if_neg hcode] at hfault
      simp only [hcode, if_false]
      exact hfault
  · simp only [Check.fault, hresolve, FileSystem.isDirectory, hentries] at hfault
    rw [hnames]
    exact hfault
  · simp only [Check.fault, hresolve, FileSystem.isDirectory, hentries] at hfault
    have hlists := lists_of_names hnames fun _ => true
    rw [List.filter_true] at hlists
    rw [hnames]
    refine ⟨hfault, _, .inr hlists, ?_⟩
    intro i
    simp only [Slots.ofList, Fin.getElem_fin, Vector.getElem_ofFn, List.getElem?_map]
    rw [List.getElem?_take_of_lt i.isLt]
    cases entries.keys.mergeSort[i.val]? <;> rfl

theorem openNode_read (fs : FileSystem) (path : RawPath) :
    fs.openNode path false = (fs.resolve path).map Place.node := by
  unfold FileSystem.openNode
  cases fs.resolve path with
  | error code => rfl
  | ok place => rfl

theorem openNode_write (fs : FileSystem) (path : RawPath) :
    fs.openNode path true =
      match fs.resolve path with
      | .error code => .error code
      | .ok place => if fs.isDirectory path then .error .isDirectory else .ok place.node := by
  unfold FileSystem.openNode FileSystem.isDirectory
  cases fs.resolve path with
  | error code => rfl
  | ok place =>
      show (if (true && (fs.entries? place.node).isSome) = true then _ else _ : Except Errno NodeId) =
        if (fs.entries? place.node).isSome = true then _ else _
      rw [Bool.true_and]
      rfl

theorem readBytes_eq (fs : FileSystem) (path : RawPath) {limit : Nat} (hlimit : limit ≠ 0) :
    fs.readBytes path limit =
      match fs.resolve path with
      | .error code => .error code
      | .ok place =>
        match fs.node? place.node with
        | some (.file content _) => .ok (content.take limit)
        | _ => .error .isDirectory := by
  unfold FileSystem.readBytes
  rw [openNode_read]
  cases fs.resolve path with
  | error code => rfl
  | ok place =>
      show (match fs.node? place.node with
        | some (.file content _) => .ok (content.take limit)
        | _ => if limit = 0 then .ok [] else .error .isDirectory : Except Errno Bytes) =
          match fs.node? place.node with
          | some (.file content _) => .ok (content.take limit)
          | _ => .error .isDirectory
      rw [if_neg hlimit]

theorem attributeText_eq (fs : FileSystem) (path : String) :
    attributeText fs path =
      (fs.readBytes (RawPath.ofText path) Backend.textLimit).map fun raw =>
        Text.trimNewlines (Text.Utf8.decode raw) := by
  unfold attributeText
  cases fs.readBytes (RawPath.ofText path) Backend.textLimit <;> rfl

theorem answers_attributeText (fs : FileSystem) (path : String) :
    Answers fs (attributeText fs path) [.readable path] fun text =>
      attributeText fs path = .ok text := by
  have hfault := firstFault_singleton fs (.readable path)
  have htext := attributeText_eq fs path
  rw [readBytes_eq fs (RawPath.ofText path) (by decide)] at htext
  simp only [Check.fault] at hfault
  cases hresolve : fs.resolve (RawPath.ofText path) with
  | error code =>
      rw [hresolve] at hfault htext
      rw [htext]
      exact hfault
  | ok place =>
      simp only [hresolve] at hfault htext
      rw [htext]
      generalize fs.node? place.node = node at hfault ⊢
      obtain _ | ⟨content, mode⟩ | ⟨entries, mode⟩ | target := node
      · exact hfault
      · exact ⟨hfault, rfl⟩
      · exact hfault
      · exact hfault

theorem entry_ne_nil (base : RawPath) {name : String} (hname : RawPath.IsStep (RawPath.ofText name)) :
    base.entry name ≠ [] :=
  (hname.isOpen_join base).ne_nil

theorem answers_scanAttributes (fs : FileSystem) (base : RawPath) :
    Answers fs (scanAttributes fs base) (attributeChecks base) (ShowsAttributes fs base) := by
  have hlist (first second : Check) : [first, second] = [first] ++ ([second] ++ []) := rfl
  rw [attributeChecks, hlist]
  unfold scanAttributes
  refine (answers_entryPaths fs (entry_ne_nil base ⟨by decide, by decide⟩) Control.standardSlots).bind ?_
  intro standard hstandard
  refine (answers_entryPaths fs (entry_ne_nil base ⟨by decide, by decide⟩) Control.extendedSlots).bind ?_
  intro extended hextended
  exact ⟨rfl, rfl, hstandard, hextended⟩

theorem answers_scanObject (fs : FileSystem) (base : RawPath) :
    Answers fs (scanObject fs base) (identityChecks base) (ShowsIdentity fs base) := by
  have hlist (first second third : Check) :
      [first, second, third] = [first] ++ ([second] ++ ([third] ++ [])) := rfl
  rw [identityChecks, hlist]
  unfold scanObject
  refine (answers_scanAttributes fs base).bind ?_
  intro head hhead
  refine (answers_attributeText fs (base.entry "name").text).bind ?_
  intro name hname
  refine (answers_attributeText fs (base.entry "devname").text).bind ?_
  intro deviceName hdeviceName
  refine (answers_attributeText fs (base.entry "devtype").text).bind ?_
  intro typeName htypeName
  refine ⟨rfl, ⟨hhead.base_eq, hhead.standard, hhead.extended⟩, hname, hdeviceName,
    ⟨typeName, htypeName, ?_⟩, rfl⟩
  dsimp only

/-- An object and then the test of its kind. -/
theorem meets_object {α : Type} {more : List Check} {good : α → Prop}
    {next : HeadRecord → Unit → ScanM α}
    (hnext : ∀ head, ShowsObject fs base kind head → Meets fs (next head ()) more good) :
    Meets fs (do
      let head ← scanObject fs base
      if head.kind ≠ kind then throw (refusal kind) >>= next head else next head ())
      (objectChecks base kind ++ more) good := by
  rw [objectChecks, List.append_assoc]
  refine (Meets.lift (answers_scanObject fs base)).bind ?_
  intro head hhead
  obtain ⟨text, htext, hkind⟩ := hhead.typeName
  apply Meets.test
  · simp only [Check.fault, htext, hkind]
    by_cases heq : ObjectKind.ofTypeName text = kind
    · rw [if_pos heq, if_neg (not_not_intro heq)]
    · rw [if_neg heq, if_pos heq]
  · intro heq
    exact hnext head ⟨hhead, not_not.mp heq⟩

theorem meets_openStream (fs : FileSystem) (streamRoot : RawPath) (deviceName role : String)
    (direction : Direction) :
    Meets fs (openStream fs streamRoot deviceName role direction)
      [.stream (streamRoot.entry s!"{deviceName}-{role}") direction] fun _ => True := by
  intro state
  let path := streamRoot.entry s!"{deviceName}-{role}"
  have houtcome : (openStream fs streamRoot deviceName role direction state).1 =
      (fs.openNode path (direction = .output)).map fun _ => state.handles.length := by
    unfold openStream
    cases fs.openNode path (direction = .output) with
    | error code => rfl
    | ok node => rfl
  have hfault := firstFault_singleton fs (.stream path direction)
  rw [houtcome]
  cases direction with
  | input =>
      have hopen : fs.openNode path (Direction.input = .output) = (fs.resolve path).map Place.node :=
        openNode_read fs path
      rw [hopen]
      cases hresolve : fs.resolve path with
      | error code =>
          simp only [Check.fault, hresolve] at hfault
          exact hfault
      | ok place =>
          simp only [Check.fault, hresolve] at hfault
          exact ⟨hfault, trivial⟩
  | output =>
      have hopen : fs.openNode path (Direction.output = .output) = _ := openNode_write fs path
      rw [hopen]
      simp only [Check.fault, true_and] at hfault
      cases hresolve : fs.resolve path with
      | error code =>
          rw [hresolve] at hfault
          exact hfault
      | ok place =>
          simp only [hresolve] at hfault
          by_cases hdirectory : fs.isDirectory path = true
          · rw [if_pos hdirectory] at hfault
            simp only [hdirectory, if_true]
            exact hfault
          · rw [if_neg hdirectory] at hfault
            simp only [hdirectory]
            exact ⟨hfault, trivial⟩

/-! ### Objects inside a directory -/

theorem names_of_isDirectory (h : fs.isDirectory base = true) : ∃ names, fs.names base = .ok names := by
  rcases names_cases fs base with ⟨code, hresolve, -⟩ | ⟨place, hresolve, hentries, -⟩ |
    ⟨place, entries, -, -, hnames⟩
  · rw [FileSystem.isDirectory, hresolve] at h
    cases h
  · simp only [FileSystem.isDirectory, hresolve, hentries] at h
    cases h
  · exact ⟨_, hnames⟩

theorem answers_subdirectories (h : fs.isDirectory base = true) (start : String) :
    Answers fs (subdirectories fs base start) [] fun found => found = children fs base start := by
  obtain ⟨names, hnames⟩ := names_of_isDirectory h
  have hchildren : children fs base start = (names.filter (isChild fs base start)).map base.join := by
    rw [children, hnames]
    rfl
  have hfound : subdirectories fs base start = .ok (children fs base start) := by
    rw [hchildren, subdirectories, hnames]
    show Except.ok (List.filter fs.isDirectory ((names.filter _).map base.join)) = _
    rw [List.filter_map, List.filter_filter]
    congr 3
    funext name
    exact Bool.and_comm _ _
  rw [hfound]
  exact ⟨rfl, rfl⟩

theorem showsChildren {α : Type} {shows : RawPath → α → Prop} {records : List α}
    (h : fs.isDirectory base = true) (hall : List.Forall₂ shows (children fs base start) records) :
    ShowsChildren fs base start shows records := by
  obtain ⟨names, hnames⟩ := names_of_isDirectory h
  refine ⟨_, lists_of_names hnames (isChild fs base start), ?_⟩
  rw [children, hnames] at hall
  exact hall

theorem isDirectory_of_mem_children {child : RawPath} (h : child ∈ children fs base start) :
    fs.isDirectory child = true := by
  obtain ⟨name, hname, rfl⟩ := List.mem_map.mp h
  have hchild := (List.mem_filter.mp hname).2
  rw [isChild, Bool.and_eq_true] at hchild
  exact hchild.2

/-! ### Objects -/

theorem streamPath_eq {role : String} {head : HeadRecord} (h : ShowsIdentity fs base head) :
    streamRoot.entry s!"{head.deviceName}-{role}" = streamPath fs streamRoot base role := by
  rw [streamPath, h.deviceName]
  rfl

theorem meets_scanChannel (fs : FileSystem) (streamRoot : RawPath) (direction : Direction)
    (base : RawPath) :
    Meets fs (scanChannel fs streamRoot direction base) (channelChecks fs streamRoot direction base)
      (ShowsChannel fs direction base) := by
  unfold scanChannel channelChecks
  rw [List.append_assoc]
  apply meets_object
  intro head hhead
  refine (Meets.lift (answers_scanAttributes fs _)).bind ?_
  intro buffer hbuffer
  -- The streams are asked for by the name that the scan has just read.
  rw [← streamPath_eq hhead.toShowsIdentity, ← streamPath_eq hhead.toShowsIdentity]
  refine (meets_openStream fs streamRoot head.deviceName "data" direction).bind ?_
  intro data _
  refine (meets_openStream fs streamRoot head.deviceName "ctrl" direction).bind ?_
  intro control _
  exact Meets.pure ⟨hhead, hbuffer, rfl⟩

theorem meets_scanChannelSet (h : fs.isDirectory base = true) (streamRoot : RawPath) :
    Meets fs (scanChannelSet fs streamRoot base) (channelSetChecks fs streamRoot base)
      (ShowsChannelSet fs base) := by
  unfold scanChannelSet channelSetChecks
  rw [List.append_assoc]
  apply meets_object
  intro head hhead
  refine (Meets.lift (answers_scanAttributes fs _)).bind ?_
  intro trigger htrigger
  refine (Meets.lift (answers_subdirectories h "chan")).bind ?_
  rintro found rfl
  refine (Meets.mapM fun channel _ =>
    meets_scanChannel fs streamRoot (scanDirection fs base) channel).bind_nil ?_
  intro channels hchannels
  exact Meets.pure ⟨hhead, rfl, htrigger, showsChildren h hchannels⟩

theorem meets_scanDevice (fs : FileSystem) (streamRoot path : RawPath) :
    Meets fs (scanDevice fs streamRoot path) (deviceChecks fs streamRoot path) fun record =>
      ∃ base, fs.canonical path = some base ∧ ShowsDevice fs base record := by
  unfold scanDevice deviceChecks
  cases hcanonical : fs.canonical path with
  | none =>
      intro state
      show firstFault fs [.root path] = some .noDevice
      rw [firstFault_singleton, Check.fault, hcanonical]
  | some base =>
      have hroot : (Check.root path).fault fs =
          if (!fs.isDirectory base) = true then some .noDevice else none := by
        rw [Check.fault, hcanonical]
        cases h : fs.isDirectory base <;> simp [h]
      dsimp only
      rw [← List.singleton_append]
      apply Meets.test hroot
      intro hfound
      have h : fs.isDirectory base = true := by simpa using hfound
      apply meets_object
      intro head hhead
      refine (Meets.lift (answers_subdirectories h "cset")).bind ?_
      rintro found rfl
      refine (Meets.mapM fun set hset =>
        meets_scanChannelSet (isDirectory_of_mem_children hset) streamRoot).bind_nil ?_
      intro sets hsets state
      exact ⟨rfl, base, rfl, hhead, showsChildren h hsets⟩

end DaqBus.KernelBus

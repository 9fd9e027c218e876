import DaqBus.Proofs.Files.Look
import DaqBus.Proofs.Kernel.Switch
import DaqBus.Proofs.Memory.Switch
import DaqBus.Proofs.World.Basic

/-!
# Which switches work

In memory the switch of every node works. On a bus of the kernel those of devices, channel-sets and
channels do, but not those of triggers and buffers, even where the file is there.
-/

namespace DaqBus

open DaqBus.Path (join)

namespace KernelBus

/-! ### A device with one channel-set

All its directories have an enable file, that of the trigger too. -/

def boardDeviceEntries : List (String × NodeId) :=
  [("name", 3), ("devname", 3), ("devtype", 4), ("enable", 8), ("cset0", 6)]

def boardSetEntries : List (String × NodeId) :=
  [("name", 3), ("devname", 3), ("devtype", 5), ("enable", 9), ("trigger", 7)]

def boardFiles : FileSystem where
  nodes := [.directory (entriesOf [("devices", 1)]) 0o755,
    .directory (entriesOf [("z", 2)]) 0o755,
    .directory (entriesOf boardDeviceEntries) 0o755,
    .file (Text.Utf8.encode "z") 0o444,
    .file (Text.Utf8.encode "zio_zdev_type") 0o444,
    .file (Text.Utf8.encode "zio_cset_type") 0o444,
    .directory (entriesOf boardSetEntries) 0o755,
    .directory (entriesOf [("enable", 10)]) 0o755,
    .file (Text.Utf8.encode "0") 0o644,
    .file (Text.Utf8.encode "0") 0o644,
    .file (Text.Utf8.encode "0") 0o644]

def board : Bus KernelBus where
  store := { files := boardFiles, busRoot := RawPath.ofText "/", streamRoot := RawPath.ofText "/" }

def boardDevice : Place := benchPlace

def boardSet : Place := (RawPath.ofText "cset0", 6) :: boardDevice

def boardTrigger : Place := (RawPath.ofText "trigger", 7) :: boardSet

def boardSetPath : RawPath := benchPath.entry "cset0"

def boardTriggerPath : RawPath := boardSetPath.entry "trigger"

def boardDirectories : List (RawPath × Place) :=
  [(benchPath, boardDevice), (boardSetPath, boardSet), (boardTriggerPath, boardTrigger)]

def boardNames : List String :=
  ["standard", "extended", "name", "devname", "devtype", "enable", "cset0", "trigger"]

section Board

variable {base : RawPath} {name : String} {place : Place}

theorem lacksLinks_board : boardFiles.LacksLinks := by decide

theorem resolve_board_directory (hbase : (base, place) ∈ boardDirectories) :
    boardFiles.resolve base = .ok place := by
  have hall : ∀ directory ∈ boardDirectories, FileSystem.IsPlainPath directory.1 ∧
      boardFiles.look directory.1.components (boardFiles.start directory.1) = .ok directory.2 := by
    decide
  obtain ⟨hplain, hlook⟩ := hall _ hbase
  rw [FileSystem.resolve_eq_look lacksLinks_board hplain, hlook]

/-- What is looked up below a directory of the board. -/
structure IsBoardEntry (base : RawPath) (name : String) : Prop where
  isOpen : RawPath.IsOpen base
  isStep : RawPath.IsStep (RawPath.ofText name)
  isPlain : FileSystem.IsPlain (RawPath.ofText name)
  isAskable : RawPath.IsAskable (base.entry name)
  isText : RawPath.ofText base.text = base

theorem isBoardEntry (hbase : (base, place) ∈ boardDirectories) (hname : name ∈ boardNames) :
    IsBoardEntry base name := by
  have hbases : ∀ directory ∈ boardDirectories,
      (directory.1 ≠ [] ∧ directory.1.getLast? ≠ some RawPath.slash) ∧
      (directory.1.contains 0 = false ∧ directory.1.length < 100) ∧
      RawPath.ofText directory.1.text = directory.1 := by
    decide +kernel
  have hnames : ∀ name ∈ boardNames, RawPath.IsStep (RawPath.ofText name) ∧
      (RawPath.ofText name ≠ RawPath.here ∧ RawPath.ofText name ≠ RawPath.up ∧
        (RawPath.ofText name).length ≤ FileSystem.nameLimit) ∧
      (RawPath.ofText name).contains 0 = false ∧ (RawPath.ofText name).length < 10 := by
    decide
  obtain ⟨⟨hne, hlast⟩, ⟨hzero, hshort⟩, htext⟩ := hbases _ hbase
  obtain ⟨hstep, hplain, hnameZero, hnameShort⟩ := hnames name hname
  refine ⟨⟨hne, hlast⟩, hstep, hplain, ?_, htext⟩
  refine (RawPath.isAskable_join_iff ⟨hne, hlast⟩ hstep).mpr ⟨hzero, hnameZero, ?_⟩
  have hlimit : FileSystem.pathLimit = 4096 := rfl
  omega

theorem resolve_board (hbase : (base, place) ∈ boardDirectories) (hname : name ∈ boardNames) :
    boardFiles.resolve (base.entry name) = boardFiles.look [RawPath.ofText name] place := by
  obtain ⟨hopen, hstep, hplain, hask, -⟩ := isBoardEntry hbase hname
  exact FileSystem.resolve_join_eq_look lacksLinks_board (resolve_board_directory hbase) hopen hstep
    hask hplain

theorem ofText_text_board (hbase : (base, place) ∈ boardDirectories) (hname : name ∈ boardNames) :
    RawPath.ofText (base.entry name).text = base.entry name := by
  obtain ⟨hopen, hstep, -, -, htext⟩ := isBoardEntry hbase hname
  exact RawPath.ofText_text_entry hopen hstep htext

theorem isReadable_board (hbase : (base, place) ∈ boardDirectories) (hname : name ∈ boardNames)
    {id : NodeId} {content : Bytes} {mode : UInt32}
    (hlook : boardFiles.look [RawPath.ofText name] place = .ok ((RawPath.ofText name, id) :: place))
    (hfile : boardFiles.node? id = some (.file content mode)) :
    IsReadable boardFiles (base.entry name).text := by
  refine ⟨(RawPath.ofText name, id) :: place, content, mode, ?_, hfile⟩
  rw [ofText_text_board hbase hname, resolve_board hbase hname, hlook]

theorem isGroup_board (hbase : (base, place) ∈ boardDirectories) (hname : name ∈ boardNames)
    (hlook : boardFiles.look [RawPath.ofText name] place = .error .noEntry) :
    boardFiles.IsGroup (base.entry name) := by
  rw [FileSystem.isGroup_iff (entry_ne_nil base (isBoardEntry hbase hname).isStep)]
  exact .inl ((resolve_board hbase hname).trans hlook)

theorem acceptsObject_board (hbase : (base, place) ∈ boardDirectories) {kind : ObjectKind}
    {id : NodeId} {mode : UInt32}
    (hgroups : boardFiles.look [RawPath.ofText "standard"] place = .error .noEntry ∧
      boardFiles.look [RawPath.ofText "extended"] place = .error .noEntry)
    (hnames : boardFiles.look [RawPath.ofText "name"] place =
        .ok ((RawPath.ofText "name", 3) :: place) ∧
      boardFiles.look [RawPath.ofText "devname"] place =
        .ok ((RawPath.ofText "devname", 3) :: place))
    (htype : boardFiles.look [RawPath.ofText "devtype"] place =
      .ok ((RawPath.ofText "devtype", id) :: place))
    (hfile : boardFiles.node? id = some (.file (Text.Utf8.encode kind.typeName) mode)) :
    AcceptsObject boardFiles base kind where
  standard := isGroup_board hbase (by decide) hgroups.1
  extended := isGroup_board hbase (by decide) hgroups.2
  name := isReadable_board hbase (by decide) hnames.1 rfl
  deviceName := isReadable_board hbase (by decide) hnames.2 rfl
  typeName := by
    have hplace := (resolve_board hbase (show "devtype" ∈ boardNames by decide)).trans htype
    rw [← ofText_text_board hbase (by decide)] at hplace
    exact ⟨kind.typeName, attributeText_of_typeName hplace hfile,
      ObjectKind.ofTypeName_typeName kind⟩

theorem mem_board_device : (benchPath, boardDevice) ∈ boardDirectories := List.mem_cons_self

theorem mem_board_set : (boardSetPath, boardSet) ∈ boardDirectories :=
  List.mem_cons_of_mem _ List.mem_cons_self

theorem mem_board_trigger : (boardTriggerPath, boardTrigger) ∈ boardDirectories :=
  List.mem_cons_of_mem _ (List.mem_cons_of_mem _ List.mem_cons_self)

theorem acceptsPart_board : AcceptsPart boardFiles boardTriggerPath := by
  rw [boardTriggerPath, ← partChecks_eq_none_iff (by decide), attributeChecks_eq_none_iff]
  constructor
  · exact isGroup_board mem_board_trigger (by decide) (by decide)
  · exact isGroup_board mem_board_trigger (by decide) (by decide)

theorem acceptsChannelSet_board : AcceptsChannelSet boardFiles (RawPath.ofText "/") boardSetPath where
  toAcceptsObject := acceptsObject_board mem_board_set (by decide) (by decide)
    (show _ = Except.ok ((RawPath.ofText "devtype", 5) :: boardSet) by decide) rfl
  trigger := acceptsPart_board
  channels := by
    rintro channel ⟨place, entries, name, hplace, hentries, hname, hstart, -, -⟩
    rw [resolve_board_directory mem_board_set] at hplace
    cases hplace
    cases hentries
    have hnone : ∀ name ∈ (entriesOf boardSetEntries).keys,
        ¬ "chan".toList <+: (RawPath.text name).toList := by decide +kernel
    exact absurd hstart (hnone name hname)

theorem acceptsDevice_board : AcceptsDevice boardFiles (RawPath.ofText "/") benchPath where
  toAcceptsObject := acceptsObject_board mem_board_device (by decide) (by decide)
    (show _ = Except.ok ((RawPath.ofText "devtype", 4) :: boardDevice) by decide) rfl
  isDirectory := by
    rw [FileSystem.isDirectory, resolve_board_directory mem_board_device]
    rfl
  sets := by
    rintro set ⟨place, entries, name, hplace, hentries, hname, hstart, rfl, -⟩
    rw [resolve_board_directory mem_board_device] at hplace
    cases hplace
    cases hentries
    have honly : ∀ name ∈ (entriesOf boardDeviceEntries).keys,
        "cset".toList <+: (RawPath.text name).toList → name = RawPath.ofText "cset0" := by
      decide +kernel
    rw [honly name hname hstart]
    exact acceptsChannelSet_board

theorem canonical_board : board.store.files.canonical (devicePath board "z") = some benchPath := by
  have hpath : devicePath board "z" = benchPath := by decide
  have hlook : boardFiles.look benchPath.components (boardFiles.start benchPath) = .ok boardDevice := by
    decide
  have hplace : boardDevice.path = benchPath := by decide
  show boardFiles.canonical (devicePath board "z") = _
  rw [hpath, FileSystem.canonical_eq_look lacksLinks_board (by decide) hlook
    (by decide), hplace]

theorem exists_openDevice_board : ∃ device opened,
    Bus.openDevice "z" none board = (.ok device, opened) ∧ ∃ set ∈ device.sets,
      set.node.base = boardSetPath.text ∧ set.trigger.node.base = boardTriggerPath.text := by
  obtain ⟨record, found, hfind⟩ :=
    exists_openNamed_iff.mpr ⟨benchPath, canonical_board, acceptsDevice_board⟩
  obtain ⟨log, hopen⟩ := Bus.openDevice_of_findDevice "z" none board
  have hfindDevice : Bus.findDevice "z" none board = (.ok record, found) := hfind
  rw [hfindDevice] at hopen
  obtain ⟨base, hbase, hrecord⟩ := showsDevice_of_openNamed hfind
  rw [canonical_board] at hbase
  cases hbase
  have hchild : IsObjectIn boardFiles benchPath "cset" boardSetPath := by
    refine ⟨_, _, RawPath.ofText "cset0", resolve_board_directory mem_board_device, rfl, ?_, ?_, rfl, ?_⟩
    · decide +kernel
    · decide +kernel
    · rw [FileSystem.isDirectory, resolve_board_directory mem_board_set]
      rfl
  obtain ⟨set, hset, hshows⟩ := hrecord.sets.exists_record hchild
  refine ⟨_, _, hopen, ChannelSet.ofRecord _ set, List.mem_map_of_mem hset, ?_, ?_⟩
  · exact hshows.head.base_eq
  · exact hshows.trigger.base_eq

end Board

end KernelBus

namespace Bus

/-- **Which switches work.** On a bus in memory every node of an open device can be switched if its
enable file can be reached, and only that file is written. On a bus of the kernel that holds for devices,
channel-sets and channels. The switch of a trigger or a buffer has no path, and so all that is done
with it fails, although the enable file is there. -/
theorem switches_of_openDevice (name : String) (id : Option UInt32) (device : Device) {node : Node}
    (hnode : node ∈ device.nodes) :
    (∀ (bus opened host : Bus MemoryBus) (file : Memory.File),
      openDevice name id bus = (.ok device, opened) → host.isClosed device.opening.number = false →
      host.store.reach s!"{node.base}/enable" = .ok file →
        node.Switches (fun content after =>
          MemoryBus.Rewritten s!"{node.base}/enable" content host.store after) host) ∧
    ∀ bus opened host : Bus KernelBus,
      openDevice name id bus = (.ok device, opened) → host.isClosed device.opening.number = false →
      KernelBus.IsReadable host.store.files (join node.base "enable") →
        (node.Switches (fun content after =>
          KernelBus.Rewritten (join node.base "enable") content host.store after) host ↔
          node ∈ device.objects) ∧
        (node ∈ device.parts → node.enableSwitch.path = "" ∧ node.SwitchFails .noEntry host) := by
  constructor
  · intro bus opened host file hopen hclosed hreach
    have hswitch := enableSwitch_of_openDevice hopen hnode
    apply Node.switches_of_isRegister
    · rw [hswitch]
      exact hclosed
    · rw [hswitch]
      exact MemoryBus.isRegister_of_reach hreach
  · intro bus opened host hopen hclosed hreadable
    have hfails (hpart : node ∈ device.parts) :
        node.enableSwitch.path = "" ∧ node.SwitchFails .noEntry host := by
      have hswitch := KernelBus.enableSwitch_of_mem_parts hopen hpart
      have hempty : node.enableSwitch.path = "" := by rw [hswitch]
      refine ⟨hempty, KernelBus.switchFails_of_empty ?_ hempty⟩
      rw [hswitch]
      exact hclosed
    refine ⟨⟨?_, ?_⟩, hfails⟩
    · intro hswitches
      rcases List.mem_append.mp hnode with hobject | hpart
      · exact hobject
      · exact absurd hswitches (hfails hpart).2.not_switches
    · intro hobject
      have hswitch := KernelBus.enableSwitch_of_mem_objects hopen hobject
      apply Node.switches_of_isRegister
      · rw [hswitch]
        exact hclosed
      · rw [hswitch]
        exact KernelBus.isRegister_of_isReadable hreadable

theorem switches_of_openDevice_board :
    (∃ device opened, openDevice "a" none { store := World.benchStore } = (.ok device, opened) ∧
      device.node.Switches (fun content after =>
        MemoryBus.Rewritten s!"{device.node.base}/enable" content World.benchStore after) opened) ∧
    ∃ device opened, openDevice "z" none KernelBus.board = (.ok device, opened) ∧
      ∃ set ∈ device.sets,
        set.node.Switches (fun content after =>
          KernelBus.Rewritten (join set.node.base "enable") content opened.store after) opened ∧
        KernelBus.IsReadable opened.store.files (join set.trigger.node.base "enable") ∧
        set.trigger.node.SwitchFails .noEntry opened := by
  constructor
  · obtain ⟨log, hopen⟩ := openDevice_eq "a" none { store := World.benchStore }
    have hlookup : World.benchStore.lookup "a" none = .ok World.benchRecord := by decide
    rw [hlookup] at hopen
    have hreach : World.benchStore.reach s!"{World.benchRecord.head.base}/enable" =
        .ok { content := Memory.line "0" } := by decide
    have hnode : (World.benchDevice 0).node ∈ (World.benchDevice 0).nodes := List.mem_cons_self
    have hswitches := (switches_of_openDevice "a" none (World.benchDevice 0) hnode).1 _ _
      { store := World.benchStore, log, opened := 1 } _ hopen rfl hreach
    exact ⟨_, _, hopen, hswitches⟩
  · obtain ⟨device, opened, hopen, set, hset, hbase, htrigger⟩ := KernelBus.exists_openDevice_board
    obtain ⟨hfiles, hclosed⟩ := KernelBus.files_of_openDevice hopen
    have hstill : opened.isClosed device.opening.number = false := by
      rw [isClosed, hclosed]
      rfl
    have hobject : set.node ∈ device.objects :=
      List.mem_cons_of_mem _ (List.mem_flatMap.mpr ⟨set, hset, List.mem_cons_self⟩)
    have hpart : set.trigger.node ∈ device.parts :=
      List.mem_flatMap.mpr ⟨set, hset, List.mem_cons_self⟩
    have hsetFile : KernelBus.IsReadable opened.store.files (join set.node.base "enable") := by
      rw [hfiles, hbase, ← RawPath.text_entry _ (by decide)]
      exact KernelBus.isReadable_board KernelBus.mem_board_set (by decide) rfl rfl
    have htriggerFile :
        KernelBus.IsReadable opened.store.files (join set.trigger.node.base "enable") := by
      rw [hfiles, htrigger, ← RawPath.text_entry _ (by decide)]
      exact KernelBus.isReadable_board KernelBus.mem_board_trigger (by decide) rfl rfl
    refine ⟨device, opened, hopen, set, hset, ?_, htriggerFile, ?_⟩
    · exact ((switches_of_openDevice "z" none device (List.mem_append_left _ hobject)).2 _ _ _ hopen
        hstill hsetFile).1.mpr hobject
    · exact (((switches_of_openDevice "z" none device (List.mem_append_right _ hpart)).2 _ _ _ hopen
        hstill htriggerFile).2 hpart).2

end Bus

end DaqBus

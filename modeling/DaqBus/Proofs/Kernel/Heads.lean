import DaqBus.Proofs.Kernel.Opening
import DaqBus.Proofs.Tree.Handles
import DaqBus.Proofs.Tree.Opening

/-!
# The switches that a scan reports

A scan gives every object the switch in its directory. For a part it only lists the attributes, and the
path of the switch stays empty.
-/

namespace DaqBus.KernelBus

open DaqBus.Path (join)

variable {α β γ : Type} {fs : FileSystem} {streamRoot path base : RawPath} {direction : Direction}

/-! ### Results of scans -/

/-- Every result of a scan is good. -/
def Yields (scan : ScanM α) (good : α → Prop) : Prop :=
  ∀ state a after, scan state = (.ok a, after) → good a

section Yields

variable {scan : ScanM α} {next : α → ScanM β} {good : α → Prop} {better : β → Prop}

theorem yields_true (scan : ScanM α) : Yields scan fun _ => True :=
  fun _ _ _ _ => trivial

theorem yields_throw (code : Errno) (good : α → Prop) : Yields (throw code) good := by
  intro state a after hrun
  cases hrun

theorem Yields.pure {a : α} (h : good a) : Yields (pure a) good := by
  intro state a after hrun
  cases hrun
  exact h

theorem Yields.lift {outcome : Except Errno α} (h : ∀ a, outcome = .ok a → good a) :
    Yields (liftM outcome) good := by
  intro state a after hrun
  exact h a (congrArg Prod.fst hrun)

theorem Yields.bind (h : Yields scan good) (hnext : ∀ a, good a → Yields (next a) better) :
    Yields (scan >>= next) better := by
  intro state b after hrun
  rw [Effect.bind_apply] at hrun
  rcases hscan : scan state with ⟨code | a, between⟩
  · rw [hscan] at hrun
    cases hrun
  · rw [hscan] at hrun
    exact hnext a (h state a between hscan) between b after hrun

theorem Yields.test {bad : Prop} [Decidable bad] {code : Errno} {next : Unit → ScanM α}
    (hnext : Yields (next ()) good) : Yields (if bad then throw code >>= next else next ()) good := by
  split
  · exact (yields_throw code fun _ => False).bind fun _ => False.elim
  · exact hnext

theorem Yields.mapM {scan : γ → ScanM α} (h : ∀ c, Yields (scan c) good) (cs : List γ) :
    Yields (cs.mapM scan) fun found => ∀ a ∈ found, good a := by
  induction cs with
  | nil => exact .pure (List.forall_mem_nil good)
  | cons c cs ih =>
      rw [List.mapM_cons]
      refine (h c).bind fun first hfirst => ih.bind fun rest hrest => .pure ?_
      exact List.forall_mem_cons.mpr ⟨hfirst, hrest⟩

end Yields

/-! ### Objects and parts -/

/-- The switch of an object is in the directory of the object. -/
def HasSwitch (head : HeadRecord) : Prop := head.enable = join head.base "enable"

def LacksSwitch (head : HeadRecord) : Prop := head.enable = ""

/-- Exactly the objects have switches. -/
structure SwitchesObjects (objects parts : List HeadRecord) : Prop where
  objects : ∀ head ∈ objects, HasSwitch head
  parts : ∀ head ∈ parts, LacksSwitch head

theorem lacksSwitch_of_scanAttributes {head : HeadRecord} (h : scanAttributes fs base = .ok head) :
    LacksSwitch head := by
  unfold scanAttributes at h
  cases hstandard : entryPaths fs (base.entry "standard") Control.standardSlots with
  | error code =>
      rw [hstandard] at h
      cases h
  | ok standard =>
      cases hextended : entryPaths fs (base.entry "extended") Control.extendedSlots with
      | error code =>
          rw [hstandard, hextended] at h
          cases h
      | ok extended =>
          rw [hstandard, hextended] at h
          cases h
          rfl

theorem hasSwitch_of_scanObject {head : HeadRecord} (h : scanObject fs base = .ok head) :
    HasSwitch head := by
  have hanswer := answers_scanObject fs base
  rw [h] at hanswer
  have hshows : ShowsIdentity fs base head := hanswer.2
  rw [HasSwitch, hshows.base_eq, ← RawPath.text_entry base (by decide)]
  exact hshows.enable

theorem yields_scanChannel (fs : FileSystem) (streamRoot : RawPath) (direction : Direction)
    (base : RawPath) :
    Yields (scanChannel fs streamRoot direction base) fun channel =>
      HasSwitch channel.head ∧ LacksSwitch channel.buffer.head := by
  unfold scanChannel
  refine (Yields.lift fun head => hasSwitch_of_scanObject).bind fun head hhead => ?_
  refine Yields.test ?_
  refine (Yields.lift fun buffer => lacksSwitch_of_scanAttributes).bind fun buffer hbuffer => ?_
  refine (yields_true _).bind fun data _ => ?_
  refine (yields_true _).bind fun control _ => ?_
  exact .pure ⟨hhead, hbuffer⟩

theorem yields_scanChannelSet (fs : FileSystem) (streamRoot base : RawPath) :
    Yields (scanChannelSet fs streamRoot base) fun set => SwitchesObjects set.objects set.parts := by
  unfold scanChannelSet
  refine (Yields.lift fun head => hasSwitch_of_scanObject).bind fun head hhead => ?_
  refine Yields.test ?_
  refine (Yields.lift fun trigger => lacksSwitch_of_scanAttributes).bind fun trigger htrigger => ?_
  refine (yields_true _).bind fun found _ => ?_
  refine (Yields.mapM (yields_scanChannel fs streamRoot _) found).bind fun channels hchannels => ?_
  refine .pure ⟨?_, ?_⟩
  · refine List.forall_mem_cons.mpr ⟨hhead, List.forall_mem_map.mpr ?_⟩
    exact fun channel hmem => (hchannels channel hmem).1
  · refine List.forall_mem_cons.mpr ⟨htrigger, List.forall_mem_map.mpr ?_⟩
    exact fun channel hmem => (hchannels channel hmem).2

theorem yields_scanDevice (fs : FileSystem) (streamRoot path : RawPath) :
    Yields (scanDevice fs streamRoot path) fun record =>
      SwitchesObjects record.objects record.parts := by
  unfold scanDevice
  cases fs.canonical path with
  | none => exact yields_throw _ _
  | some base =>
      refine Yields.test ?_
      refine (Yields.lift fun head => hasSwitch_of_scanObject).bind fun head hhead => ?_
      refine Yields.test ?_
      refine (yields_true _).bind fun found _ => ?_
      refine (Yields.mapM (yields_scanChannelSet fs streamRoot) found).bind fun sets hsets => ?_
      refine (yields_true _).bind fun _ _ => .pure ⟨?_, ?_⟩
      · refine List.forall_mem_cons.mpr ⟨hhead, ?_⟩
        intro part hpart
        obtain ⟨set, hset, hmem⟩ := List.mem_flatMap.mp hpart
        exact (hsets set hset).objects part hmem
      · intro part hpart
        obtain ⟨set, hset, hmem⟩ := List.mem_flatMap.mp hpart
        exact (hsets set hset).parts part hmem

/-! ### Openings -/

variable {key name : String} {id : Option UInt32} {bus after : Bus KernelBus}

/-- An opening only adds handles and lines of the log. -/
theorem openNamed_eq_ok {record : DeviceRecord} (hopen : openNamed key bus = (.ok record, after)) :
    SwitchesObjects record.objects record.parts ∧
      ∃ handles log, after = { bus with store := { bus.store with handles }, log } := by
  unfold openNamed at hopen
  dsimp only at hopen
  rcases hscan : scanDevice bus.store.files bus.store.streamRoot (bus.store.devicesPath.entry key)
    { handles := bus.store.handles } with ⟨code | found, scanned⟩
  · rw [hscan] at hopen
    cases hopen
  · rw [hscan] at hopen
    cases hopen
    exact ⟨yields_scanDevice _ _ _ _ _ _ hscan, _, _, rfl⟩

theorem openNamed_of_findDevice {record : DeviceRecord}
    (hfind : Bus.findDevice name id bus = (.ok record, after)) :
    openNamed ((id.map (instanceName name)).getD name) bus = (.ok record, after) := by
  cases id with
  | none =>
      rw [Bus.findDevice] at hfind
      split at hfind
      · cases hfind
      · exact hfind
  | some id =>
      rw [Bus.findDevice] at hfind
      split at hfind
      · cases hfind
      · exact hfind

variable {device : Device} {node : Node}

theorem enableSwitch_of_mem_objects (hopen : Bus.openDevice name id bus = (.ok device, after))
    (hnode : node ∈ device.objects) :
    node.enableSwitch = { path := join node.base "enable", opening := device.opening } := by
  obtain ⟨record, found, log, hfind, rfl, -⟩ := Bus.exists_record_of_openDevice hopen
  have hswitches := (openNamed_eq_ok (openNamed_of_findDevice hfind)).1
  rw [Device.objects_ofRecord] at hnode
  obtain ⟨head, hhead, rfl⟩ := List.mem_map.mp hnode
  exact congrArg (Attribute.mk · _) (hswitches.objects head hhead)

theorem enableSwitch_of_mem_parts (hopen : Bus.openDevice name id bus = (.ok device, after))
    (hnode : node ∈ device.parts) :
    node.enableSwitch = { path := "", opening := device.opening } := by
  obtain ⟨record, found, log, hfind, rfl, -⟩ := Bus.exists_record_of_openDevice hopen
  have hswitches := (openNamed_eq_ok (openNamed_of_findDevice hfind)).1
  rw [Device.parts_ofRecord] at hnode
  obtain ⟨head, hhead, rfl⟩ := List.mem_map.mp hnode
  exact congrArg (Attribute.mk · _) (hswitches.parts head hhead)

theorem files_of_openDevice (hopen : Bus.openDevice name id bus = (.ok device, after)) :
    after.store.files = bus.store.files ∧ after.closed = bus.closed := by
  obtain ⟨record, found, log, hfind, -, rfl⟩ := Bus.exists_record_of_openDevice hopen
  obtain ⟨-, handles, log, rfl⟩ := openNamed_eq_ok (openNamed_of_findDevice hfind)
  exact ⟨rfl, rfl⟩

end DaqBus.KernelBus

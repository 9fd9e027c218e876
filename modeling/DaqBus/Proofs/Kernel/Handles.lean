import DaqBus.Proofs.Channel.Index
import DaqBus.Proofs.Kernel.Heads
import Mathlib.Data.List.Nodup

/-!
# The handles that a scan opens

A scan opens the streams of the channels one after the other, and each gets the next free number. So no
two channels of a device share a handle.
-/

namespace DaqBus

/-! ### Streams of a device -/

def ChannelStreams.ids (streams : ChannelStreams) : List StreamId :=
  [streams.data, streams.control]

theorem ChannelStreams.Apart.of_disjoint {streams other : ChannelStreams}
    (h : streams.ids.Disjoint other.ids) : streams.Apart other := by
  have hdisjoint := List.disjoint_left.mp h
  simp only [ids, List.mem_cons, List.not_mem_nil, or_false, not_or, forall_eq_or_imp,
    forall_eq] at hdisjoint
  obtain ⟨⟨hdata, hcross⟩, hback, hcontrol⟩ := hdisjoint
  exact ⟨hcontrol, hback, hcross, hdata⟩

def ChannelSetRecord.streamIds (set : ChannelSetRecord) : List StreamId :=
  set.channels.flatMap fun channel => channel.streams.ids

def DeviceRecord.streamIds (device : DeviceRecord) : List StreamId :=
  device.sets.flatMap ChannelSetRecord.streamIds

theorem disjoint_of_nodup_flatMap {α β : Type} {f : α → List β} {l : List α} {i j : Nat} {a b : α}
    (h : (l.flatMap f).Nodup) (hne : i ≠ j) (hi : l[i]? = some a) (hj : l[j]? = some b) :
    (f a).Disjoint (f b) := by
  have hpairwise := (List.nodup_flatMap.mp h).2
  obtain ⟨hilt, rfl⟩ := List.getElem?_eq_some_iff.mp hi
  obtain ⟨hjlt, rfl⟩ := List.getElem?_eq_some_iff.mp hj
  rcases Nat.lt_or_gt_of_ne hne with hlt | hlt
  · exact List.pairwise_iff_getElem.mp hpairwise i j hilt hjlt hlt
  · exact fun _ hmem hmem' =>
      List.pairwise_iff_getElem.mp hpairwise j i hjlt hilt hlt hmem' hmem

theorem Device.hasOwnStreams_of_nodup {opening : Opening} {id : Option UInt32} {record : DeviceRecord}
    (h : record.streamIds.Nodup) : (Device.ofRecord opening id record).HasOwnStreams := by
  intro index index' channel other hne hchannel hother
  obtain ⟨set, hset, hchannel⟩ := Device.exists_set_of_channel? hchannel
  obtain ⟨set', hset', hother⟩ := Device.exists_set_of_channel? hother
  obtain ⟨found, hfound, rfl⟩ := Option.map_eq_some_iff.mp (List.getElem?_map ▸ hset)
  obtain ⟨found', hfound', rfl⟩ := Option.map_eq_some_iff.mp (List.getElem?_map ▸ hset')
  obtain ⟨inside, hinside, rfl⟩ := Option.map_eq_some_iff.mp (List.getElem?_map ▸ hchannel)
  obtain ⟨inside', hinside', rfl⟩ := Option.map_eq_some_iff.mp (List.getElem?_map ▸ hother)
  apply ChannelStreams.Apart.of_disjoint
  by_cases hsame : index.set = index'.set
  · rw [hsame, hfound'] at hfound
    cases hfound
    have hnumber : index.channel ≠ index'.channel := fun heq =>
      hne (by cases index; cases index'; simp_all)
    have hset : (found.channels.flatMap fun channel => channel.streams.ids).Nodup :=
      (List.nodup_flatMap.mp h).1 found (List.mem_of_getElem? hfound')
    have hdisjoint := disjoint_of_nodup_flatMap hset hnumber hinside hinside'
    exact hdisjoint
  · have hsets := disjoint_of_nodup_flatMap h hsame hfound hfound'
    intro stream hmem hmem'
    exact hsets (List.mem_flatMap.mpr ⟨inside, List.mem_of_getElem? hinside, hmem⟩)
      (List.mem_flatMap.mpr ⟨inside', List.mem_of_getElem? hinside', hmem'⟩)

namespace KernelBus

/-! ### Scans -/

variable {α β γ : Type}

/-- The streams that a scan opens get the next free numbers, which tell about its result. -/
def Opens (scan : ScanM α) (good : α → List StreamId → Prop) : Prop :=
  ∀ before a after, scan before = (.ok a, after) →
    ∃ count, after.handles.length = before.handles.length + count ∧
      good a (List.range' before.handles.length count)

section Opens

variable {scan : ScanM α} {next : α → ScanM β} {good : α → List StreamId → Prop}
  {better : β → List StreamId → Prop}

theorem opens_throw (code : Errno) (good : α → List StreamId → Prop) : Opens (throw code) good := by
  intro before a after hrun
  cases hrun

theorem Opens.pure {a : α} (h : good a []) : Opens (pure a) good := by
  intro before b after hrun
  cases hrun
  exact ⟨0, rfl, h⟩

theorem Opens.bind (h : Opens scan good)
    (hnext : ∀ a ids, good a ids → Opens (next a) fun b more => better b (ids ++ more)) :
    Opens (scan >>= next) better := by
  intro before b after hrun
  rw [Effect.bind_apply] at hrun
  rcases hscan : scan before with ⟨code | a, between⟩
  · rw [hscan] at hrun
    cases hrun
  · rw [hscan] at hrun
    obtain ⟨count, hlength, hgood⟩ := h before a between hscan
    obtain ⟨more, hmore, hbetter⟩ := hnext a _ hgood between b after hrun
    refine ⟨count + more, by omega, ?_⟩
    rw [hlength, List.range'_append_1] at hbetter
    exact hbetter

theorem Opens.afterLift {outcome : Except Errno α} (hnext : ∀ a, Opens (next a) better) :
    Opens (liftM outcome >>= next) better := by
  have hlift : Opens (liftM outcome : ScanM α) fun _ ids => ids = [] := by
    intro before a after hrun
    have hsame : before = after := congrArg Prod.snd hrun
    subst hsame
    exact ⟨0, rfl, rfl⟩
  refine hlift.bind fun a ids hids => ?_
  rw [hids]
  exact hnext a

theorem Opens.test {bad : Prop} [Decidable bad] {code : Errno} {next : Unit → ScanM α}
    (hnext : Opens (next ()) good) : Opens (if bad then throw code >>= next else next ()) good := by
  split
  · exact (opens_throw code fun _ _ => False).bind fun _ _ => False.elim
  · exact hnext

theorem Opens.mapM {scan : γ → ScanM α} {ids : α → List StreamId}
    (h : ∀ c, Opens (scan c) fun a opened => ids a = opened) (cs : List γ) :
    Opens (cs.mapM scan) fun found opened => found.flatMap ids = opened := by
  induction cs with
  | nil => exact .pure rfl
  | cons c cs ih =>
      rw [List.mapM_cons]
      refine (h c).bind fun first front hfront => ih.bind fun rest back hback => .pure ?_
      rw [List.flatMap_cons, hfront, hback, List.append_nil]

end Opens

variable {fs : FileSystem} {streamRoot base path : RawPath} {direction : Direction}

theorem opens_openStream (fs : FileSystem) (streamRoot : RawPath) (deviceName role : String)
    (direction : Direction) :
    Opens (openStream fs streamRoot deviceName role direction) fun id ids => [id] = ids := by
  intro before id after hrun
  unfold openStream at hrun
  cases hnode : fs.openNode (streamRoot.entry s!"{deviceName}-{role}") (direction = .output) with
  | error code =>
      rw [hnode] at hrun
      cases hrun
  | ok node =>
      rw [hnode] at hrun
      cases hrun
      exact ⟨1, List.length_append, rfl⟩

theorem opens_scanChannel (fs : FileSystem) (streamRoot : RawPath) (direction : Direction)
    (base : RawPath) :
    Opens (scanChannel fs streamRoot direction base) fun channel ids => channel.streams.ids = ids := by
  unfold scanChannel
  refine .afterLift fun head => .test (.afterLift fun buffer => ?_)
  refine (opens_openStream fs streamRoot head.deviceName "data" direction).bind fun data _ hdata => ?_
  refine (opens_openStream fs streamRoot head.deviceName "ctrl" direction).bind
    fun control _ hcontrol => ?_
  subst hdata hcontrol
  exact .pure rfl

theorem opens_scanChannelSet (fs : FileSystem) (streamRoot base : RawPath) :
    Opens (scanChannelSet fs streamRoot base) fun set ids => set.streamIds = ids := by
  unfold scanChannelSet
  refine .afterLift fun head => .test (.afterLift fun trigger => .afterLift fun found => ?_)
  refine (Opens.mapM (opens_scanChannel fs streamRoot _) found).bind fun channels _ hids => ?_
  subst hids
  exact .pure (List.append_nil _).symm

theorem opens_scanDevice (fs : FileSystem) (streamRoot path : RawPath) :
    Opens (scanDevice fs streamRoot path) fun record ids => record.streamIds = ids := by
  unfold scanDevice
  cases fs.canonical path with
  | none => exact opens_throw _ _
  | some base =>
      refine .test (.afterLift fun head => .test (.afterLift fun found => ?_))
      refine (Opens.mapM (opens_scanChannelSet fs streamRoot) found).bind fun sets _ hids => ?_
      -- All that is left is a line of the log and the record.
      subst hids
      intro before record after hrun
      cases hrun
      exact ⟨0, rfl, (List.append_nil _).symm⟩

/-! ### Openings -/

variable {name : String} {id : Option UInt32} {bus after : Bus KernelBus} {device : Device}

/-- Different channels of a device share no handle. -/
theorem hasOwnStreams_of_openDevice (hopen : Bus.openDevice name id bus = (.ok device, after)) :
    device.HasOwnStreams := by
  obtain ⟨record, found, log, hfind, rfl, -⟩ := Bus.exists_record_of_openDevice hopen
  have hnamed := openNamed_of_findDevice hfind
  unfold openNamed at hnamed
  dsimp only at hnamed
  rcases hscan : scanDevice bus.store.files bus.store.streamRoot
    (bus.store.devicesPath.entry ((id.map (instanceName name)).getD name))
    { handles := bus.store.handles } with ⟨code | scanned, last⟩
  · rw [hscan] at hnamed
    cases hnamed
  · rw [hscan] at hnamed
    cases hnamed
    obtain ⟨count, -, hids⟩ := opens_scanDevice _ _ _ _ _ _ hscan
    apply Device.hasOwnStreams_of_nodup
    rw [hids]
    exact List.nodup_range'

end KernelBus

end DaqBus

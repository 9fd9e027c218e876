import DaqBus.Proofs.Kernel.Opening
import DaqBus.Tree.Basic
import Mathlib.Data.List.Forall2

/-!
# Numbered objects

The kernel numbers the channel-sets of a device and the channels of a channel-set, and their
directories are named after the numbers. Objects are found in the order of these names, which is the
order of the numbers as long as they have one digit: the name with ten comes before the name with two.
-/

namespace DaqBus.KernelBus

variable {fs : FileSystem} {base : RawPath} {start : String} {n : Nat}

/-! ### Numbered names -/

def indexText (start : String) (i : Nat) : String :=
  s!"{start}{i}"

def indexName (start : String) (i : Nat) : Bytes :=
  RawPath.ofText (indexText start i)

/-- The objects of a directory whose names begin so have the numbers below `n`. -/
def IsNumbered (fs : FileSystem) (base : RawPath) (start : String) (n : Nat) : Prop :=
  ∃ place entries, fs.resolve base = .ok place ∧ fs.entries? place.node = some entries ∧
    (entries.keys.filter (isChild fs base start)).Perm ((List.range n).map (indexName start))

/-- Every number below `n` is the place of its object. -/
def InIndexOrder {α : Type} (shows : RawPath → α → Prop) (base : RawPath) (start : String) (n : Nat)
    (records : List α) : Prop :=
  ∀ i < n, ∃ record, records[i]? = some record ∧ shows (base.join (indexName start i)) record

theorem indexName_eq (start : String) (i : Nat) :
    indexName start i = RawPath.ofText start ++ RawPath.ofText (toString i) :=
  Text.Utf8.encode_append start (toString i)

theorem pairwise_indexName (start : String) (hn : n ≤ 10) :
    ((List.range n).map (indexName start)).Pairwise (· ≤ ·) := by
  have hdigits : ∀ j < 10, ∀ i < j,
      RawPath.ofText (toString i) ≤ RawPath.ofText (toString j) := by decide
  rw [List.pairwise_map]
  refine List.pairwise_lt_range.imp_of_mem ?_
  intro i j _ hj hless
  rw [indexName_eq, indexName_eq]
  have hj10 : j < 10 := Nat.lt_of_lt_of_le (List.mem_range.mp hj) hn
  exact List.append_left_le (hdigits j hj10 i hless)

theorem ten_lt_two (start : String) : indexName start 10 < indexName start 2 := by
  have hdigits : RawPath.ofText (toString 10) < RawPath.ofText (toString 2) := by decide
  rw [indexName_eq, indexName_eq]
  exact List.append_left_lt hdigits

theorem isAbsolute_indexText (hne : start ≠ "") (hstart : Path.isAbsolute start = false) (i : Nat) :
    Path.isAbsolute (indexText start i) = false := by
  have hlist : start.toList ≠ [] := fun h => hne (String.toList_eq_nil_iff.mp h)
  have happend : (indexText start i).toList = start.toList ++ (toString i).toList :=
    String.toList_append
  rw [Path.isAbsolute, List.head?_eq_some_head hlist] at hstart
  rw [Path.isAbsolute, happend, List.head?_append, List.head?_eq_some_head hlist, Option.some_or]
  exact hstart

theorem Lists.perm_indexName {names : List Bytes} (h : Lists fs base (isChild fs base start) names)
    (hnumbered : IsNumbered fs base start n) : names.Perm ((List.range n).map (indexName start)) := by
  obtain ⟨place, entries, hplace, hentries, hperm⟩ := h.entries
  obtain ⟨other, found, hother, hfound, hnumbers⟩ := hnumbered
  rw [hplace] at hother
  cases hother
  rw [hentries] at hfound
  cases hfound
  exact hperm.trans hnumbers

theorem Lists.eq_indexName_iff {names : List Bytes}
    (h : Lists fs base (isChild fs base start) names) (hnumbered : IsNumbered fs base start n) :
    names = (List.range n).map (indexName start) ↔ n ≤ 10 := by
  constructor
  · -- Beyond ten the names at the places two and ten would be out of order.
    intro heq
    by_contra hmore
    have hsorted := h.sorted
    rw [heq, List.pairwise_map, List.pairwise_iff_getElem] at hsorted
    have hswapped := hsorted 2 10 (by rw [List.length_range]; omega) (by rw [List.length_range]; omega)
      (by decide)
    rw [List.getElem_range, List.getElem_range] at hswapped
    exact absurd (ten_lt_two start) (List.not_lt.mpr hswapped)
  · intro hn
    apply (h.perm_indexName hnumbered).eq_of_pairwise _ h.sorted (pairwise_indexName start hn)
    exact fun first second _ _ => List.le_antisymm

variable {α : Type} {shows located : RawPath → α → Prop} {records : List α}

theorem exists_shows {names : List Bytes} {i : Nat} {name : Bytes}
    (h : List.Forall₂ shows (names.map base.join) records) (hname : names[i]? = some name) :
    ∃ record, records[i]? = some record ∧ shows (base.join name) record := by
  obtain ⟨hi, rfl⟩ := List.getElem?_eq_some_iff.mp hname
  have hpath : i < (names.map base.join).length := by rwa [List.length_map]
  have hrecord : i < records.length := h.length_eq ▸ hpath
  have hshows := h.get hpath hrecord
  rw [List.get_eq_getElem, List.get_eq_getElem, List.getElem_map] at hshows
  exact ⟨records[i], List.getElem?_eq_getElem hrecord, hshows⟩

variable {pathOf : α → String}

/-- Objects in the order of their numbers have been found in this order. -/
theorem InIndexOrder.names_eq {names : List Bytes}
    (horder : InIndexOrder (fun path record => pathOf record = path.text) base start n records)
    (hrecords : List.Forall₂ shows (names.map base.join) records)
    (hperm : names.Perm ((List.range n).map (indexName start)))
    (hstart : start ≠ "" ∧ Path.isAbsolute start = false)
    (hpath : ∀ path record, shows path record → pathOf record = path.text) :
    names = (List.range n).map (indexName start) := by
  apply List.ext_getElem hperm.length_eq
  intro i hname hi
  rw [List.getElem_map, List.getElem_range]
  rw [List.length_map, List.length_range] at hi
  obtain ⟨record, hrecord, hplace⟩ := horder i hi
  obtain ⟨found, hfound, hshows⟩ := exists_shows hrecords (List.getElem?_eq_getElem hname)
  rw [hrecord] at hfound
  cases hfound
  obtain ⟨j, -, hj⟩ := List.mem_map.mp (hperm.mem_iff.mp (List.getElem_mem hname))
  rw [← hj] at hshows ⊢
  -- The same text under the same directory: the names are equal, as neither is absolute.
  have htexts := (hpath _ _ hshows).symm.trans hplace
  exact congrArg RawPath.ofText (RawPath.text_entry_injective
    (isAbsolute_indexText hstart.1 hstart.2 j) (isAbsolute_indexText hstart.1 hstart.2 i) htexts)

theorem ShowsChildren.inIndexOrder_iff (h : ShowsChildren fs base start shows records)
    (hnumbered : IsNumbered fs base start n) (hstart : start ≠ "" ∧ Path.isAbsolute start = false)
    (hpath : ∀ path record, shows path record → pathOf record = path.text) :
    (InIndexOrder shows base start n records ↔ n ≤ 10) ∧
      (InIndexOrder (fun path record => pathOf record = path.text) base start n records ↔ n ≤ 10) := by
  obtain ⟨names, hlists, hrecords⟩ := h
  have hperm := hlists.perm_indexName hnumbered
  rw [← hlists.eq_indexName_iff hnumbered]
  have hweaken : InIndexOrder shows base start n records →
      InIndexOrder (fun path record => pathOf record = path.text) base start n records := by
    intro horder i hi
    obtain ⟨record, hrecord, hshows⟩ := horder i hi
    exact ⟨record, hrecord, hpath _ _ hshows⟩
  have hfound : names = (List.range n).map (indexName start) →
      InIndexOrder shows base start n records := by
    rintro rfl i hi
    apply exists_shows hrecords
    rw [List.getElem?_map, List.getElem?_range hi]
    rfl
  constructor
  · exact ⟨fun horder => (hweaken horder).names_eq hrecords hperm hstart hpath, hfound⟩
  · exact ⟨fun horder => horder.names_eq hrecords hperm hstart hpath,
      fun heq => hweaken (hfound heq)⟩

theorem inIndexOrder_map {β : Type} {f : β → α} {found : List β} :
    InIndexOrder located base start n (found.map f) ↔
      InIndexOrder (fun path record => located path (f record)) base start n found := by
  unfold InIndexOrder
  simp only [List.getElem?_map, Option.map_eq_some_iff, exists_exists_and_eq_and]

/-! ### Opened devices -/

variable {key : String} {bus : Bus KernelBus}

theorem exists_showsChannelSet {record : DeviceRecord} (h : ShowsDevice fs base record)
    {set : ChannelSetRecord} (hset : set ∈ record.sets) :
    ∃ path, IsObjectIn fs base "cset" path ∧ ShowsChannelSet fs path set := by
  obtain ⟨names, hlists, hrecords⟩ := h.sets
  obtain ⟨i, hi, rfl⟩ := List.getElem_of_mem hset
  have hpath : i < (names.map base.join).length := hrecords.length_eq ▸ hi
  have hshows := hrecords.get hpath hi
  rw [List.get_eq_getElem, List.get_eq_getElem] at hshows
  refine ⟨_, ?_, hshows⟩
  obtain ⟨place, entries, hplace, hentries, hperm⟩ := hlists.entries
  rw [List.getElem_map]
  have hname := hperm.mem_iff.mp (List.getElem_mem (List.length_map (f := base.join) ▸ hpath))
  obtain ⟨hmem, hchild⟩ := List.mem_filter.mp hname
  rw [isChild, Bool.and_eq_true, List.isPrefixOf_iff_prefix] at hchild
  exact ⟨place, entries, _, hplace, hentries, hmem, hchild.1, rfl, hchild.2⟩

theorem isNumbered_bench : IsNumbered benchFiles benchPath "cset" 11 := by
  refine ⟨_, _, resolve_device, isObjectAt_device.entries_eq, ?_⟩
  have hkeys : (entriesOf benchDeviceEntries).keys =
      ["name", "devname", "devtype"].map RawPath.ofText ++ benchSets.map RawPath.ofText := by
    decide
  have hothers : (["name", "devname", "devtype"].map RawPath.ofText).filter
      (isChild benchFiles benchPath "cset") = [] := by
    decide +kernel
  have hsets : (benchSets.map RawPath.ofText).filter (isChild benchFiles benchPath "cset") =
      benchSets.map RawPath.ofText := by
    rw [List.filter_eq_self]
    intro name hname
    obtain ⟨set, hset, rfl⟩ := List.mem_map.mp hname
    obtain ⟨i, hi⟩ := List.getElem?_of_mem hset
    have hobject := isObjectAt_set (List.mk_add_mem_zipIdx_iff_getElem?.mpr hi)
    have hstart : ∀ set ∈ benchSets,
        "cset".toList.isPrefixOf (RawPath.text (RawPath.ofText set)).toList = true := by
      decide +kernel
    have hresolve : benchFiles.resolve (benchPath.join (RawPath.ofText set)) = _ := hobject.resolve_eq
    rw [isChild, hstart set hset, FileSystem.isDirectory, hresolve]
    dsimp only
    rw [hobject.entries_eq]
    rfl
  rw [hkeys, List.filter_append, hothers, hsets]
  exact List.Perm.refl _

/-- **Numbered objects are in order up to ten of them.** This holds of the channel-sets of an opened
device and of the channels of each of its sets, in the record and in the tree. -/
theorem openByName_inIndexOrder_iff {record : DeviceRecord} {after : Bus KernelBus}
    (hopen : Backend.openByName key bus = (.ok record, after)) (opening : Opening)
    (id : Option UInt32) :
    let fs := bus.store.files
    ∃ base, fs.canonical (devicePath bus key) = some base ∧
      (∀ n, IsNumbered fs base "cset" n →
        (InIndexOrder (ShowsChannelSet fs) base "cset" n record.sets ↔ n ≤ 10) ∧
        (InIndexOrder (fun path set => set.node.base = path.text) base "cset" n
          (Device.ofRecord opening id record).sets ↔ n ≤ 10)) ∧
      ∀ set ∈ record.sets, ∃ path, IsObjectIn fs base "cset" path ∧ ShowsChannelSet fs path set ∧
        ∀ m, IsNumbered fs path "chan" m →
          (InIndexOrder (ShowsChannel fs set.direction) path "chan" m set.channels ↔ m ≤ 10) ∧
          (InIndexOrder (fun path channel => channel.node.base = path.text) path "chan" m
            (ChannelSet.ofRecord opening set).channels ↔ m ≤ 10) := by
  intro fs
  obtain ⟨base, hcanonical, hdevice⟩ := showsDevice_of_openNamed hopen
  refine ⟨base, hcanonical, fun n hnumbered => ?_, fun set hset => ?_⟩
  · rw [Device.ofRecord, inIndexOrder_map]
    exact hdevice.sets.inIndexOrder_iff hnumbered ⟨by decide, by decide⟩
      fun path set h => h.head.base_eq
  · obtain ⟨path, hpath, hshows⟩ := exists_showsChannelSet hdevice hset
    refine ⟨path, hpath, hshows, fun m hnumbered => ?_⟩
    rw [ChannelSet.ofRecord, inIndexOrder_map]
    exact hshows.channels.inIndexOrder_iff hnumbered ⟨by decide, by decide⟩
      fun path channel h => h.head.base_eq

theorem openByName_inIndexOrder_bench : ∃ record after,
    Backend.openByName "z" bench = (.ok record, after) ∧
      ¬ InIndexOrder (ShowsChannelSet benchFiles) benchPath "cset" 11 record.sets := by
  obtain ⟨record, after, hopen⟩ := exists_openNamed_bench
  obtain ⟨base, hbase, hsets, -⟩ := openByName_inIndexOrder_iff hopen ⟨0, "/devices/z"⟩ none
  rw [canonical_bench] at hbase
  cases hbase
  refine ⟨record, after, hopen, ?_⟩
  intro horder
  exact absurd ((hsets 11 isNumbered_bench).1.mp horder) (by decide)

end DaqBus.KernelBus

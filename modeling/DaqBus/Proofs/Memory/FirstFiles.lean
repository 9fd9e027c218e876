import DaqBus.Proofs.Memory.Access
import DaqBus.Proofs.Memory.Change
import DaqBus.Proofs.Text.Register
import Mathlib.Data.List.Nodup

/-!
# First contents of attributes

The files of a device are made directory by directory, and the names along two paths keep different
groups of attributes apart, whatever the attributes are called. So no file that is made after a group
is in the group, and every attribute of it starts with the value that it was given last.
-/

namespace DaqBus.Memory

variable {dir base group path name : String} {device : Blueprint} {set : SetBlueprint}
  {attributes : AttributeList} {files : List (String × Bytes)} {i j : Nat}

/-! ### Paths below a directory -/

def entry (dir name : String) : String := s!"{dir}/{name}"

def numbered (start : String) (n : Nat) : String := s!"{start}{n}"

def Below (dir path : String) : Prop := ∃ rest, path = entry dir rest

theorem below_entry (dir name : String) : Below dir (entry dir name) :=
  ⟨name, rfl⟩

/-- The path of an entry whose name is written out. -/
theorem entry_eq (dir text name : String) (htext : text = "/" ++ name) :
    s!"{dir}{text}" = entry dir name := by
  simp [entry, htext, toString, String.append_assoc]

theorem below_leaf (dir : String) {text : String} (name : String) (htext : text = "/" ++ name) :
    Below dir s!"{dir}{text}" := by
  rw [entry_eq dir text name htext]
  exact below_entry dir name

theorem Below.up (h : Below (entry dir name) path) : Below dir path := by
  obtain ⟨rest, rfl⟩ := h
  exact ⟨entry name rest, by simp [entry, toString, String.append_assoc]⟩

theorem Below.name_eq {other : String} (hname : '/' ∉ name.toList) (hother : '/' ∉ other.toList)
    (h : Below (entry dir name) path) (h' : Below (entry dir other) path) : name = other := by
  obtain ⟨rest, rfl⟩ := h
  obtain ⟨rest', heq⟩ := h'
  have hlist := congrArg String.toList heq
  simp only [entry, String.toList_append, toString, List.append_assoc, List.append_cancel_left_eq]
    at hlist
  exact String.toList_injective (Text.front_inj hname hother hlist)

theorem not_below_entry {other : String} (hname : '/' ∉ name.toList) :
    ¬ Below (entry dir other) (entry dir name) := by
  rintro ⟨rest, heq⟩
  have hlist := congrArg String.toList heq
  simp only [entry, String.toList_append, toString, List.append_assoc, List.append_cancel_left_eq]
    at hlist
  apply hname
  rw [hlist]
  simp

theorem slash_not_mem_numbered {start : String} (hstart : '/' ∉ start.toList) (n : Nat) :
    '/' ∉ (numbered start n).toList := by
  intro hmem
  rw [numbered, String.toList_append] at hmem
  rcases List.mem_append.mp hmem with hfront | hdigit
  · exact hstart hfront
  · exact absurd (Text.isDigit_of_mem_toString hdigit) (by decide)

/-! ### Where the files of an object lie -/

theorem numbered_eq (dir text start : String) (n : Nat) (htext : text = "/" ++ start) :
    s!"{dir}{text}{n}" = entry dir (numbered start n) := by
  simp only [entry, numbered, htext, toString, String.append_assoc]

theorem setBase_eq (device : Blueprint) (i : Nat) :
    device.setBase i = entry device.base (numbered "cset" i) :=
  numbered_eq device.base "/cset" "cset" i rfl

theorem channelBase_eq (device : Blueprint) (i j : Nat) :
    device.channelBase i j = entry (device.setBase i) (numbered "chan" j) :=
  numbered_eq (device.setBase i) "/chan" "chan" j rfl

theorem below_of_mem_objectFiles {deviceName : String} {kind : ObjectKind} {file : String × Bytes}
    (hfile : file ∈ objectFiles base name deviceName kind) : Below base file.1 := by
  simp only [objectFiles, List.mem_cons, List.not_mem_nil, or_false] at hfile
  rcases hfile with rfl | rfl | rfl | rfl
  · exact below_leaf base "name" rfl
  · exact below_leaf base "devname" rfl
  · exact below_leaf base "devtype" rfl
  · exact below_leaf base "enable" rfl

theorem below_of_mem_attributeFiles {file : String × Bytes}
    (hfile : file ∈ attributeFiles base group attributes) : Below (entry base group) file.1 := by
  obtain ⟨a, -, rfl⟩ := List.mem_map.mp hfile
  exact below_entry (entry base group) a.1

theorem below_of_mem_channelFiles {file : String × Bytes}
    (hfile : file ∈ device.channelFiles i set j) : Below (device.channelBase i j) file.1 := by
  simp only [Blueprint.channelFiles, List.mem_append, List.mem_cons, List.not_mem_nil, or_false]
    at hfile
  rcases hfile with (hobject | hattribute) | rfl | rfl | rfl
  · exact below_of_mem_objectFiles hobject
  · exact (below_of_mem_attributeFiles hattribute).up
  · exact below_leaf (device.channelBase i j) "alarms" rfl
  · exact below_leaf (device.channelBase i j) "buffer/flush" rfl
  · exact below_leaf (device.channelBase i j) "current_control" rfl

theorem below_of_mem_setFiles {file : String × Bytes} (hfile : file ∈ device.setFiles i set) :
    Below (device.setBase i) file.1 := by
  simp only [Blueprint.setFiles, List.mem_append, List.mem_cons, List.not_mem_nil, or_false,
    List.mem_flatMap] at hfile
  rcases hfile with (((hobject | hattribute) | htrigger) | rfl | rfl | rfl) | ⟨j, -, hchannel⟩
  · exact below_of_mem_objectFiles hobject
  · exact (below_of_mem_attributeFiles hattribute).up
  · have hbelow := (below_of_mem_attributeFiles htrigger).up
    rw [entry_eq (device.setBase i) "/trigger" "trigger" rfl] at hbelow
    exact hbelow.up
  · exact below_leaf (device.setBase i) "direction" rfl
  · exact below_leaf (device.setBase i) "current_trigger" rfl
  · exact below_leaf (device.setBase i) "current_buffer" rfl
  · have hbelow := below_of_mem_channelFiles hchannel
    rw [channelBase_eq] at hbelow
    exact hbelow.up

/-! ### Groups of attributes -/

/-- The attributes of a group are all made, and nothing made after them lies in the group. -/
def EndsGroup (files : List (String × Bytes)) (base group : String) (attributes : AttributeList) :
    Prop :=
  ∃ front back, files = front ++ attributeFiles base group attributes ++ back ∧
    ∀ file ∈ back, ¬ Below (entry base group) file.1

theorem EndsGroup.append (h : EndsGroup files base group attributes) (before : List (String × Bytes))
    {after : List (String × Bytes)} (hafter : ∀ file ∈ after, ¬ Below (entry base group) file.1) :
    EndsGroup (before ++ files ++ after) base group attributes := by
  obtain ⟨front, back, rfl, hback⟩ := h
  refine ⟨before ++ front, back ++ after, by simp only [List.append_assoc], ?_⟩
  intro file hfile
  exact (List.mem_append.mp hfile).elim (hback file) (hafter file)

theorem endsGroup_attributeFiles (base group : String) (attributes : AttributeList) :
    EndsGroup (attributeFiles base group attributes) base group attributes :=
  ⟨[], [], by simp, fun _ hmem => nomatch hmem⟩

/-- Of several lists of files only one has the group. -/
theorem EndsGroup.flatMap {γ : Type} {make : γ → List (String × Bytes)} {c : γ} {cs : List γ}
    (h : EndsGroup (make c) base group attributes) (hmem : c ∈ cs) (hnodup : cs.Nodup)
    (hother : ∀ d ∈ cs, d ≠ c → ∀ file ∈ make d, ¬ Below (entry base group) file.1) :
    EndsGroup (cs.flatMap make) base group attributes := by
  obtain ⟨front, back, rfl⟩ := List.append_of_mem hmem
  have hback : c ∉ back := (List.nodup_cons.mp (List.nodup_append.mp hnodup).2.1).1
  rw [List.flatMap_append, List.flatMap_cons, ← List.append_assoc]
  apply h.append
  intro file hfile
  obtain ⟨d, hd, hfile⟩ := List.mem_flatMap.mp hfile
  refine hother d (List.mem_append_right _ (List.mem_cons_of_mem c hd)) ?_ file hfile
  rintro rfl
  exact hback hd

theorem lookup_map_of_injective {f : String → String} {g : UInt32 → Bytes} (hf : f.Injective)
    (attributes : AttributeList) (name : String) :
    (attributes.map fun a => (f a.1, g a.2)).lookup (f name) =
      (attributes.lookup name).map g := by
  induction attributes with
  | nil => rfl
  | cons a attributes ih =>
      obtain ⟨other, value⟩ := a
      by_cases hname : name = other
      · simp [hname]
      · have hpath : f name ≠ f other := fun h => hname (hf h)
        simp only [List.map_cons, List.lookup_cons, beq_eq_false_iff_ne.mpr hname,
          beq_eq_false_iff_ne.mpr hpath]
        exact ih

theorem attributePath_injective (base group : String) :
    (attributePath base group).Injective := by
  intro name other h
  exact (String.append_right_inj s!"{base}/{group}/").mp h

/-- What a file of the group contains is decided by the last value that its name was given. -/
theorem EndsGroup.lookup_reverse (h : EndsGroup files base group attributes) {value : UInt32}
    (hvalue : attributes.reverse.lookup name = some value) :
    files.reverse.lookup (attributePath base group name) = some (line (toString value.toNat)) := by
  obtain ⟨front, back, rfl, hback⟩ := h
  have hmissing : back.reverse.lookup (attributePath base group name) = none := by
    rw [List.lookup_eq_none_iff]
    intro file hfile
    rw [bne_iff_ne]
    intro heq
    apply hback file (List.mem_reverse.mp hfile)
    rw [← heq]
    exact below_entry (entry base group) name
  have hgroup : (attributeFiles base group attributes).reverse.lookup (attributePath base group name) =
      some (line (toString value.toNat)) := by
    rw [attributeFiles, ← List.map_reverse,
      lookup_map_of_injective (attributePath_injective base group) (g := fun value =>
        line (toString value.toNat)), hvalue]
    rfl
  rw [List.reverse_append, List.reverse_append, List.lookup_append, List.lookup_append, hmissing,
    hgroup]
  rfl

/-! ### The groups of a device -/

theorem not_below_of_ne {other : String} (hname : '/' ∉ name.toList) (hother : '/' ∉ other.toList)
    (hne : name ≠ other) (h : Below (entry dir name) path) : ¬ Below (entry dir other) path :=
  fun h' => hne (h.name_eq hname hother h')

theorem not_below_leaf {other text : String} (dir name : String) (htext : text = "/" ++ name)
    (hname : '/' ∉ name.toList) : ¬ Below (entry dir other) s!"{dir}{text}" := by
  rw [entry_eq dir text name htext]
  exact not_below_entry hname

/-- The groups of an object and the directories in it have different names. -/
theorem numbered_ne {start : String} (n : Nat) (hstart : start.toList.head? = some 'c')
    (hgroup : group.toList.head? ≠ some 'c') : numbered start n ≠ group := by
  rintro rfl
  apply hgroup
  show (start ++ toString n).toList.head? = some 'c'
  rw [String.toList_append, List.head?_append, hstart, Option.some_or]

theorem numbered_inj (start : String) {m n : Nat} (h : numbered start m = numbered start n) : m = n :=
  Text.toString_inj ((String.append_right_inj start).mp h)

namespace Blueprint

variable (device i)

theorem endsGroup_channelFiles (set : SetBlueprint) (j : Nat) :
    EndsGroup (device.channelFiles i set j) (device.channelBase i j) "standard"
      set.channelAttributes := by
  refine (endsGroup_attributeFiles _ "standard" set.channelAttributes).append _ ?_
  intro file hfile
  simp only [List.mem_cons, List.not_mem_nil, or_false] at hfile
  rcases hfile with rfl | rfl | rfl
  · exact not_below_leaf (device.channelBase i j) "alarms" rfl (by decide)
  · have hbuffer : Below (entry (device.channelBase i j) "buffer")
        s!"{device.channelBase i j}/buffer/flush" :=
      ⟨"flush", by simp [entry, toString, String.append_assoc]⟩
    exact not_below_of_ne (by decide) (by decide) (by decide) hbuffer
  · exact not_below_leaf (device.channelBase i j) "current_control" rfl (by decide)

/-- What lies in the directory of a channel is in no group of the set. -/
theorem not_below_of_mem_channels {set : SetBlueprint} {file : String × Bytes}
    (hfile : file ∈ (List.range set.channels).flatMap (device.channelFiles i set))
    (hgroup : '/' ∉ group.toList) (hstart : group.toList.head? ≠ some 'c') :
    ¬ Below (entry (device.setBase i) group) file.1 := by
  obtain ⟨j, -, hchannel⟩ := List.mem_flatMap.mp hfile
  have hbelow := below_of_mem_channelFiles hchannel
  rw [channelBase_eq] at hbelow
  exact not_below_of_ne (slash_not_mem_numbered (by decide) j) hgroup
    (numbered_ne j (by decide) hstart) hbelow

/-- Nothing that is made for a set after its trigger is in a group of the set. -/
theorem not_below_of_mem_later {set : SetBlueprint} {file : String × Bytes}
    (hfile : file ∈ [(s!"{device.setBase i}/direction", Text.Utf8.encode set.direction.text),
        (s!"{device.setBase i}/current_trigger", line "user"),
        (s!"{device.setBase i}/current_buffer", line "kmalloc")] ++
      (List.range set.channels).flatMap (device.channelFiles i set))
    (hgroup : '/' ∉ group.toList) (hstart : group.toList.head? ≠ some 'c') :
    ¬ Below (entry (device.setBase i) group) file.1 := by
  simp only [List.mem_append, List.mem_cons, List.not_mem_nil, or_false] at hfile
  rcases hfile with (rfl | rfl | rfl) | hchannels
  · exact not_below_leaf (device.setBase i) "direction" rfl (by decide)
  · exact not_below_leaf (device.setBase i) "current_trigger" rfl (by decide)
  · exact not_below_leaf (device.setBase i) "current_buffer" rfl (by decide)
  · exact device.not_below_of_mem_channels i hchannels hgroup hstart

theorem endsGroup_setFiles (set : SetBlueprint) :
    EndsGroup (device.setFiles i set) (device.setBase i) "standard" set.attributes := by
  rw [setFiles, List.append_assoc, List.append_assoc]
  refine (endsGroup_attributeFiles _ "standard" set.attributes).append _ ?_
  intro file hfile
  rcases List.mem_append.mp hfile with htrigger | hlater
  · have hbelow := (below_of_mem_attributeFiles htrigger).up
    rw [entry_eq (device.setBase i) "/trigger" "trigger" rfl] at hbelow
    exact not_below_of_ne (by decide) (by decide) (by decide) hbelow
  · exact device.not_below_of_mem_later i hlater (by decide) (by decide)

theorem endsGroup_triggerFiles (set : SetBlueprint) :
    EndsGroup (device.setFiles i set) s!"{device.setBase i}/trigger" "standard"
      set.triggerAttributes := by
  rw [setFiles, List.append_assoc]
  refine (endsGroup_attributeFiles _ "standard" set.triggerAttributes).append _ ?_
  intro file hfile hbelow
  have htrigger := hbelow.up
  rw [entry_eq (device.setBase i) "/trigger" "trigger" rfl] at htrigger
  exact device.not_below_of_mem_later i hfile (by decide) (by decide) htrigger

/-- What lies in the directory of one channel is not in that of another one. -/
theorem endsGroup_setFiles_channel {set : SetBlueprint} (hj : j < set.channels) :
    EndsGroup (device.setFiles i set) (device.channelBase i j) "standard" set.channelAttributes := by
  have hchannels : EndsGroup ((List.range set.channels).flatMap (device.channelFiles i set))
      (device.channelBase i j) "standard" set.channelAttributes := by
    refine (device.endsGroup_channelFiles i set j).flatMap (List.mem_range.mpr hj)
      List.nodup_range ?_
    intro k _ hne file hfile hbelow
    have hown := below_of_mem_channelFiles hfile
    have hother := hbelow.up
    rw [channelBase_eq] at hown hother
    exact hne (numbered_inj "chan" (hown.name_eq (slash_not_mem_numbered (by decide) k)
      (slash_not_mem_numbered (by decide) j) hother))
  rw [setFiles, ← List.append_nil (_ ++ List.flatMap _ _)]
  exact hchannels.append _ fun _ hmem => nomatch hmem

variable {device i}

/-- A group that lies in the directory of a set is a group of the device. -/
theorem endsGroup_files_of_set {set : SetBlueprint}
    (h : EndsGroup (device.setFiles i set) base group attributes)
    (hset : device.sets[i]? = some set)
    (hbase : ∀ path, Below (entry base group) path → Below (device.setBase i) path) :
    EndsGroup device.files base group attributes := by
  have hnodup : device.sets.zipIdx.Nodup := by
    apply List.Nodup.of_map Prod.snd
    rw [List.zipIdx_map_snd]
    exact List.nodup_range'
  have hsets : EndsGroup (device.sets.zipIdx.flatMap fun made => device.setFiles made.2 made.1)
      base group attributes := by
    refine EndsGroup.flatMap (c := (set, i)) h (List.mem_zipIdx_iff_getElem?.mpr hset) hnodup ?_
    rintro ⟨other, k⟩ hother hne file hfile hbelow
    have hown := below_of_mem_setFiles hfile
    have hthere := hbase file.1 hbelow
    rw [setBase_eq] at hown hthere
    have hk : k = i := numbered_inj "cset" (hown.name_eq (slash_not_mem_numbered (by decide) k)
      (slash_not_mem_numbered (by decide) i) hthere)
    have hsame := List.mem_zipIdx_iff_getElem?.mp hother
    rw [hk, hset] at hsame
    exact hne (Prod.ext (Option.some.inj hsame).symm hk)
  rw [files, ← List.append_nil (_ ++ List.flatMap _ _)]
  exact hsets.append _ fun _ hmem => nomatch hmem

/-- What lies in the directory of a set is in no group of the device. -/
theorem not_below_of_mem_sets {file : String × Bytes}
    (hfile : file ∈ device.sets.zipIdx.flatMap fun made => device.setFiles made.2 made.1)
    (hgroup : '/' ∉ group.toList) (hstart : group.toList.head? ≠ some 'c') :
    ¬ Below (entry device.base group) file.1 := by
  obtain ⟨⟨set, i⟩, -, hset⟩ := List.mem_flatMap.mp hfile
  have hbelow := below_of_mem_setFiles hset
  rw [setBase_eq] at hbelow
  exact not_below_of_ne (slash_not_mem_numbered (by decide) i) hgroup
    (numbered_ne i (by decide) hstart) hbelow

theorem endsGroup_standard (device : Blueprint) :
    EndsGroup device.files device.base "standard" device.attributes := by
  rw [files, List.append_assoc]
  refine (endsGroup_attributeFiles _ "standard" device.attributes).append _ ?_
  intro file hfile
  rcases List.mem_append.mp hfile with hextended | hsets
  · exact not_below_of_ne (by decide) (by decide) (by decide)
      (below_of_mem_attributeFiles hextended)
  · exact not_below_of_mem_sets hsets (by decide) (by decide)

theorem endsGroup_extended (device : Blueprint) :
    EndsGroup device.files device.base "extended" device.extendedAttributes :=
  (endsGroup_attributeFiles _ "extended" device.extendedAttributes).append _ fun _ hfile =>
    not_below_of_mem_sets hfile (by decide) (by decide)

theorem endsGroup_set {set : SetBlueprint} (hset : device.sets[i]? = some set) :
    EndsGroup device.files (device.setBase i) "standard" set.attributes :=
  endsGroup_files_of_set (device.endsGroup_setFiles i set) hset fun _ hbelow => hbelow.up

theorem endsGroup_trigger {set : SetBlueprint} (hset : device.sets[i]? = some set) :
    EndsGroup device.files s!"{device.setBase i}/trigger" "standard" set.triggerAttributes := by
  refine endsGroup_files_of_set (device.endsGroup_triggerFiles i set) hset fun path hbelow => ?_
  have hbelow := hbelow.up
  rw [entry_eq (device.setBase i) "/trigger" "trigger" rfl] at hbelow
  exact hbelow.up

theorem endsGroup_channel {set : SetBlueprint} (hset : device.sets[i]? = some set)
    (hj : j < set.channels) :
    EndsGroup device.files (device.channelBase i j) "standard" set.channelAttributes := by
  refine endsGroup_files_of_set (device.endsGroup_setFiles_channel i hj) hset fun path hbelow => ?_
  have hbelow := hbelow.up
  rw [channelBase_eq] at hbelow
  exact hbelow.up

end Blueprint

end DaqBus.Memory

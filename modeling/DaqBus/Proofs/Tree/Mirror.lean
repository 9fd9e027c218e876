import DaqBus.Proofs.Files.Walk
import DaqBus.Proofs.Memory.FirstFiles
import DaqBus.Proofs.Memory.Registered

/-!
# The tree of a blueprint

An opening returns a tree with an object for every object of the blueprint that was registered last
under the key. The record is made from the blueprint alone and its slots are scanned again by the nodes,
so this goes through three lists of the same paths: what the registration makes, what the record holds
and what the nodes show.
-/

namespace DaqBus

open Memory

/-! ### Names at the end of a path -/

namespace Path

variable {path name : String}

def EndsIn (path name : String) : Prop :=
  ∃ front : String, path = s!"{front}/{name}" ∧ '/' ∉ name.toList

theorem last_of_endsIn (h : EndsIn path name) : last path = name := by
  obtain ⟨front, rfl, hname⟩ := h
  have hlist : (s!"{front}/{name}").toList = front.toList ++ '/' :: name.toList := by
    simp [toString]
  have hkept : ∀ c ∈ name.toList, (c == '/') = false := by
    intro c hc
    rw [beq_eq_false_iff_ne]
    rintro rfl
    exact hname hc
  rw [last, hlist, Text.pieces_append_cons _ (by decide), Text.pieces_of_none hkept,
    List.getLast?_append, List.getLast?_singleton, Option.some_or, Option.getD_some,
    String.ofList_toList]

theorem exists_endsIn (hslash : '/' ∈ path.toList) : ∃ name, EndsIn path name := by
  obtain ⟨back, front, hreverse, hback⟩ := List.eq_append_cons_of_mem (List.mem_reverse.mpr hslash)
  have hlist : path.toList = front.reverse ++ '/' :: back.reverse := by
    rw [← List.reverse_reverse path.toList, hreverse]
    simp
  refine ⟨String.ofList back.reverse, String.ofList front.reverse, ?_, ?_⟩
  · apply String.toList_injective
    rw [hlist]
    simp [toString]
  · rwa [String.toList_ofList, List.mem_reverse]

theorem last_eq_iff_endsIn (hslash : '/' ∈ path.toList) : last path = name ↔ EndsIn path name := by
  constructor
  · rintro rfl
    obtain ⟨name, hname⟩ := exists_endsIn hslash
    rwa [last_of_endsIn hname]
  · exact last_of_endsIn

end Path

/-! ### Slots -/

theorem Slots.toList_ofList (n : Nat) (paths : List String) :
    (Slots.ofList n paths).toList = paths.take n ++ List.replicate (n - paths.length) "" := by
  apply List.ext_getElem
  · simp only [ofList, Vector.length_toList, List.length_append, List.length_take,
      List.length_replicate]
    omega
  · intro i hi hi'
    have hslot : i < n := by simpa using hi
    simp only [ofList, Vector.getElem_toList, Vector.getElem_ofFn, List.getElem_append,
      List.length_take, List.getElem_take, List.getElem_replicate]
    split
    next htaken =>
      rw [List.getElem?_eq_getElem (by omega)]
      rfl
    next hfree =>
      rw [List.getElem?_eq_none (by omega)]
      rfl

theorem Slots.takeWhile_ofList (n : Nat) {paths : List String} (hpaths : ∀ path ∈ paths, path ≠ "") :
    (ofList n paths).toList.takeWhile (· ≠ "") = paths.take n := by
  have hkept : ∀ path ∈ paths.take n, decide (path ≠ "") = true := by
    intro path hpath
    simpa using hpaths path (List.mem_of_mem_take hpath)
  have hempty : (List.replicate (n - paths.length) "").takeWhile (· ≠ "") = [] := by simp
  rw [toList_ofList, List.takeWhile_append_of_pos hkept, hempty, List.append_nil]

/-! ### Nodes -/

/-- The value that a name is given last. -/
def Memory.lastGiven (attributes : AttributeList) (name : String) : Option UInt32 :=
  attributes.reverse.lookup name

/-- How an object shows the attributes that its blueprint lists: which paths, in which order, and how
they are found by name. The values are what the blueprint gave, if nothing else was registered. -/
structure Node.Shows (node : Node) (bus : Bus MemoryBus) (alone : Prop) (base : String)
    (standard extended : AttributeList) : Prop where
  base_eq : node.base = base
  paths : node.attributes.map Attribute.path =
    (standard.take 16).map (fun a => s!"{base}/standard/{a.1}") ++
      (extended.take 32).map (fun a => s!"{base}/extended/{a.1}")
  attribute?_eq_some_iff : ∀ name a, node.attribute? name = some a ↔
    Path.EndsIn a.path name ∧ ∃ before after, node.attributes = before ++ a :: after ∧
      ∀ other ∈ before, ¬ Path.EndsIn other.path name
  values : alone → List.Forall₂
    (fun a given => ∃ value, given = some value ∧ (a.read bus).1 = .ok value) node.attributes
    ((standard.take 16).map (fun a => lastGiven standard a.1) ++
      (extended.take 32).map (fun a => lastGiven extended a.1))

/-- Every attribute of a group reads the value that its name was given last. -/
def Starts (bus : Bus MemoryBus) (opening : Opening) (base group : String)
    (attributes : AttributeList) : Prop :=
  ∀ a ∈ attributes, ∃ value, lastGiven attributes a.1 = some value ∧
    (Attribute.read ⟨attributePath base group a.1, opening⟩ bus).1 = .ok value

variable {bus : Bus MemoryBus} {alone : Prop} {opening : Opening} {base group : String}
  {attributes standard extended : AttributeList} {blueprint : Blueprint} {i j : Nat}
  {set : SetBlueprint}

theorem starts_nil : Starts bus opening base group [] := by
  intro a hmem
  cases hmem

theorem exists_lastGiven {a : String × UInt32} (hmem : a ∈ attributes) :
    ∃ value, lastGiven attributes a.1 = some value := by
  rw [← Option.isSome_iff_exists, lastGiven, Option.isSome_iff_ne_none]
  intro hnone
  rw [List.lookup_eq_none_iff] at hnone
  simpa using hnone a (List.mem_reverse.mpr hmem)

theorem starts_of_endsGroup {files : List (String × Bytes)}
    (hopen : bus.isClosed opening.number = false) (hwilling : bus.store.Willing)
    (hfiles : ∀ path, bus.store.file? path = files.reverse.lookup path)
    (h : EndsGroup files base group attributes) : Starts bus opening base group attributes := by
  intro a hmem
  obtain ⟨value, hvalue⟩ := exists_lastGiven hmem
  refine ⟨value, hvalue, ?_⟩
  have hcontent := (hfiles _).trans (h.lookup_reverse hvalue)
  obtain ⟨file, hfile, hline⟩ := Option.map_eq_some_iff.mp hcontent
  have hreach : bus.store.reach (attributePath base group a.1) = .ok file := by
    rw [MemoryBus.reach_eq_ok_iff, hwilling.2]
    exact ⟨rfl, hfile⟩
  have hnumber : Attribute.numberOf? file.content = some value := by
    rw [hline]
    exact Attribute.numberOf?_encode_line value
  rw [Attribute.read_eq (a := ⟨attributePath base group a.1, opening⟩) hopen, hreach]
  simp only [hnumber]

theorem attributePaths_slots {standard extended : List String}
    (hstandard : ∀ path ∈ standard, path ≠ "") (hextended : ∀ path ∈ extended, path ≠ "") :
    attributePaths (Slots.ofList Control.standardSlots standard).toList
        (Slots.ofList Control.extendedSlots extended).toList =
      standard.take 16 ++ extended.take 32 := by
  rw [attributePaths, Slots.takeWhile_ofList _ hstandard, Slots.takeWhile_ofList _ hextended]
  rfl

theorem slash_mem_attributePath (base group name : String) :
    '/' ∈ (attributePath base group name).toList := by
  simp [attributePath, toString]

theorem attributePath_ne_empty (base group : String) {path : String} {attributes : AttributeList}
    (hpath : path ∈ attributes.map fun a => attributePath base group a.1) : path ≠ "" := by
  obtain ⟨a, -, rfl⟩ := List.mem_map.mp hpath
  intro hempty
  have hslash := slash_mem_attributePath base group a.1
  rw [hempty] at hslash
  cases hslash

/-- A lookup by name finds the first attribute whose path ends in the name. -/
theorem Node.attribute?_eq_some_iff {node : Node} (hpaths : ∀ a ∈ node.attributes, '/' ∈ a.path.toList)
    (name : String) (a : Attribute) :
    node.attribute? name = some a ↔
      Path.EndsIn a.path name ∧ ∃ before after, node.attributes = before ++ a :: after ∧
        ∀ other ∈ before, ¬ Path.EndsIn other.path name := by
  have hname {other : Attribute} (hmem : other ∈ node.attributes) :
      other.name = name ↔ Path.EndsIn other.path name := Path.last_eq_iff_endsIn (hpaths other hmem)
  rw [attribute?, List.find?_eq_some_iff_append]
  constructor
  · rintro ⟨ha, before, after, hsplit, hbefore⟩
    rw [decide_eq_true_eq, hname (by simp [hsplit])] at ha
    refine ⟨ha, before, after, hsplit, ?_⟩
    intro other hother
    rw [← hname (by simp [hsplit, hother])]
    simpa using hbefore other hother
  · rintro ⟨ha, before, after, hsplit, hbefore⟩
    rw [← hname (by simp [hsplit])] at ha
    refine ⟨by simp [ha], before, after, hsplit, ?_⟩
    intro other hother
    have hne := hbefore other hother
    rw [← hname (by simp [hsplit, hother])] at hne
    simpa using hne

theorem Node.shows_head (base name deviceName : String) (kind : ObjectKind)
    (hstandard : alone → Starts bus opening base "standard" standard)
    (hextended : alone → Starts bus opening base "extended" extended) :
    (Node.ofHead opening (head base name deviceName kind standard extended)).Shows bus alone base
      standard extended := by
  have hattributes : (Node.ofHead opening
        (head base name deviceName kind standard extended)).attributes =
      ((standard.take 16).map fun a => (⟨attributePath base "standard" a.1, opening⟩ : Attribute)) ++
        (extended.take 32).map fun a => ⟨attributePath base "extended" a.1, opening⟩ := by
    rw [ofHead, head, attributePaths_slots (fun _ => attributePath_ne_empty base "standard")
      (fun _ => attributePath_ne_empty base "extended")]
    simp [← List.map_take, Function.comp_def]
  refine ⟨rfl, ?_, ?_, ?_⟩
  · rw [hattributes]
    have hpath (group : String) (text : String) (htext : text = "/" ++ group ++ "/")
        (a : String × UInt32) : attributePath base group a.1 = s!"{base}{text}{a.1}" := by
      simp only [htext, attributePath, toString, String.append_assoc]
    simp only [List.map_append, List.map_map, Function.comp_def, hpath "standard" "/standard/" rfl,
      hpath "extended" "/extended/" rfl]
  · apply attribute?_eq_some_iff
    intro a ha
    rw [hattributes] at ha
    rcases List.mem_append.mp ha with hgroup | hgroup
    all_goals
      obtain ⟨given, -, rfl⟩ := List.mem_map.mp hgroup
      exact slash_mem_attributePath base _ given.1
  · intro halone
    rw [hattributes]
    apply List.rel_append
    · rw [List.forall₂_map_left_iff, List.forall₂_map_right_iff, List.forall₂_same]
      exact fun a ha => hstandard halone a (List.mem_of_mem_take ha)
    · rw [List.forall₂_map_left_iff, List.forall₂_map_right_iff, List.forall₂_same]
      exact fun a ha => hextended halone a (List.mem_of_mem_take ha)

/-! ### Trees -/

structure Channel.Mirrors (channel : Channel) (bus : Bus MemoryBus) (alone : Prop)
    (blueprint : Blueprint) (i : Nat) (set : SetBlueprint) (j : Nat) : Prop where
  node : channel.node.Shows bus alone (blueprint.channelBase i j) set.channelAttributes []
  buffer : channel.buffer.node.Shows bus alone s!"{blueprint.channelBase i j}/buffer" [] []
  direction : channel.direction = set.direction
  deviceName : channel.node.deviceName = s!"{blueprint.deviceName}-{i}-{j}"
  /-- The streams are those that stand under the name of the channel. -/
  streams : bus.store.streams.find? s!"{blueprint.deviceName}-{i}-{j}" =
    some ⟨channel.streams.data, channel.streams.control⟩

structure ChannelSet.Mirrors (set : ChannelSet) (bus : Bus MemoryBus) (alone : Prop)
    (blueprint : Blueprint) (i : Nat) (made : SetBlueprint) : Prop where
  node : set.node.Shows bus alone (blueprint.setBase i) made.attributes []
  trigger : set.trigger.node.Shows bus alone s!"{blueprint.setBase i}/trigger"
    made.triggerAttributes []
  direction : set.direction = made.direction
  length_channels : set.channels.length = made.channels
  channels : ∀ (j : Nat) (channel : Channel), set.channels[j]? = some channel →
    channel.Mirrors bus alone blueprint i made j

/-- The tree has the objects of the blueprint, each in its place. -/
structure Device.Mirrors (device : Device) (bus : Bus MemoryBus) (alone : Prop)
    (blueprint : Blueprint) : Prop where
  node : device.node.Shows bus alone blueprint.base blueprint.attributes blueprint.extendedAttributes
  length_sets : device.sets.length = blueprint.sets.length
  sets : ∀ (i : Nat) (set : ChannelSet) (made : SetBlueprint), device.sets[i]? = some set →
    blueprint.sets[i]? = some made → set.Mirrors bus alone blueprint i made

theorem exists_mapM {α β : Type} {f : α → Option β} {P : α → β → Prop} {values : List α}
    (h : ∀ a ∈ values, ∃ b, f a = some b ∧ P a b) :
    ∃ results, values.mapM f = some results ∧ List.Forall₂ P values results := by
  induction values with
  | nil => exact ⟨[], rfl, .nil⟩
  | cons a values ih =>
      obtain ⟨b, hb, hrelated⟩ := h a List.mem_cons_self
      obtain ⟨results, hresults, hall⟩ := ih fun other hother => h other (List.mem_cons_of_mem a hother)
      refine ⟨b :: results, ?_, .cons hrelated hall⟩
      rw [List.mapM_cons, hb, hresults]
      rfl

theorem related_of_getElem? {α β : Type} {P : α → β → Prop} {values : List α} {results : List β}
    (h : List.Forall₂ P values results) {a : α} {b : β} (ha : values[i]? = some a)
    (hb : results[i]? = some b) : P a b := by
  obtain ⟨hi, rfl⟩ := List.getElem?_eq_some_iff.mp ha
  obtain ⟨hi', rfl⟩ := List.getElem?_eq_some_iff.mp hb
  exact (List.forall₂_iff_get.mp h).2 i hi hi'

namespace Memory.Blueprint

theorem exists_channelRecord
    (hname : (bus.store.streams.find? (blueprint.channelDeviceName i j)).isSome)
    (hvalues : alone → Starts bus opening (blueprint.channelBase i j) "standard"
      set.channelAttributes) :
    ∃ record, blueprint.channelRecord? bus.store.streams.find? i set j = some record ∧
      (Channel.ofRecord opening record).Mirrors bus alone blueprint i set j := by
  obtain ⟨pair, hpair⟩ := Option.isSome_iff_exists.mp hname
  refine ⟨_, by rw [channelRecord?, hpair]; rfl, ?_⟩
  exact {
    node := Node.shows_head _ _ _ _ hvalues fun _ => starts_nil
    buffer := Node.shows_head _ _ _ _ (fun _ => starts_nil) fun _ => starts_nil
    direction := rfl
    deviceName := rfl
    streams := hpair }

/-- What a tree needs from the store that it is opened on. -/
structure IsReady (blueprint : Blueprint) (bus : Bus MemoryBus) (alone : Prop) (opening : Opening) :
    Prop where
  streams : ∀ name ∈ blueprint.channelNames, (bus.store.streams.find? name).isSome
  values : alone → ∀ base group attributes, EndsGroup blueprint.files base group attributes →
    Starts bus opening base group attributes

theorem IsReady.exists_setRecord (h : blueprint.IsReady bus alone opening)
    (hset : blueprint.sets[i]? = some set) :
    ∃ record, blueprint.setRecord? bus.store.streams.find? i set = some record ∧
      (ChannelSet.ofRecord opening record).Mirrors bus alone blueprint i set := by
  have hchannels : ∃ records,
      (List.range set.channels).mapM (blueprint.channelRecord? bus.store.streams.find? i set) =
        some records ∧
      List.Forall₂ (fun j record => (Channel.ofRecord opening record).Mirrors bus alone blueprint i
        set j) (List.range set.channels) records := by
    apply exists_mapM
    intro j hj
    rw [List.mem_range] at hj
    exact exists_channelRecord (h.streams _ (mem_channelNames_iff.mpr ⟨i, j, set, hset, hj, rfl⟩))
      fun halone => h.values halone _ _ _ (endsGroup_channel hset hj)
  obtain ⟨records, hrecords, hmirror⟩ := hchannels
  refine ⟨_, by rw [setRecord?, hrecords]; rfl, ?_⟩
  exact {
    node := Node.shows_head _ _ _ _ (fun halone => h.values halone _ _ _ (endsGroup_set hset))
      fun _ => starts_nil
    trigger := Node.shows_head _ _ _ _
      (fun halone => h.values halone _ _ _ (endsGroup_trigger hset)) fun _ => starts_nil
    direction := rfl
    length_channels := by
      rw [← List.length_range (n := set.channels), hmirror.length_eq]
      exact List.length_map _
    channels := by
      intro j channel hchannel
      obtain ⟨record, hrecord, rfl⟩ := Option.map_eq_some_iff.mp (List.getElem?_map ▸ hchannel)
      have hj : j < set.channels := by
        rw [← List.length_range (n := set.channels), hmirror.length_eq]
        exact (List.getElem?_eq_some_iff.mp hrecord).1
      exact related_of_getElem? hmirror (List.getElem?_range hj) hrecord }

/-- The record of a blueprint is there, and its tree mirrors the blueprint. -/
theorem IsReady.exists_record (h : blueprint.IsReady bus alone opening) (id : Option UInt32) :
    ∃ record, blueprint.record? bus.store.streams.find? = some record ∧
      record.head.base = blueprint.base ∧
      (Device.ofRecord opening id record).Mirrors bus alone blueprint := by
  have hsets : ∃ records,
      (blueprint.sets.zipIdx.mapM fun made =>
        blueprint.setRecord? bus.store.streams.find? made.2 made.1) = some records ∧
      List.Forall₂ (fun entry record => (ChannelSet.ofRecord opening record).Mirrors bus alone
        blueprint entry.2 entry.1) blueprint.sets.zipIdx records := by
    apply exists_mapM
    rintro ⟨set, i⟩ hset
    exact h.exists_setRecord (List.mem_zipIdx_iff_getElem?.mp hset)
  obtain ⟨records, hrecords, hmirror⟩ := hsets
  refine ⟨_, by rw [record?, hrecords]; rfl, rfl, ?_⟩
  exact {
    node := Node.shows_head _ _ _ _ (fun halone => h.values halone _ _ _ blueprint.endsGroup_standard)
      fun halone => h.values halone _ _ _ blueprint.endsGroup_extended
    length_sets := by
      rw [← List.length_zipIdx (l := blueprint.sets), hmirror.length_eq]
      exact List.length_map _
    sets := by
      intro i set made hset hmade
      obtain ⟨record, hrecord, rfl⟩ := Option.map_eq_some_iff.mp (List.getElem?_map ▸ hset)
      have hentry : blueprint.sets.zipIdx[i]? = some (made, i) := by
        rw [List.getElem?_zipIdx, hmade, Option.map_some, Nat.zero_add]
      exact related_of_getElem? hmirror hentry hrecord }

end Memory.Blueprint

/-! ### Openings -/

/-- **The tree mirrors the blueprint.** Whatever was registered, a key that is registered opens, and the
tree is that of the last blueprint with the key: its objects in their places, their attributes in the
order of the blueprint, found by the names at the ends of their paths, and for every channel the streams
under its name. With this one registration alone, every attribute reads the value it was given last. -/
theorem Bus.openDevice_mirrors {devices : List Blueprint} (name : String) (id : Option UInt32)
    (hname : name ≠ "")
    (hlast : devices.reverse.find? (·.key = (id.map (instanceName name)).getD name) =
      some blueprint) :
    ∃ device after,
      openDevice name id { store := devices.foldl MemoryBus.addDevice {} } = (.ok device, after) ∧
      device.Mirrors after (devices = [blueprint]) blueprint := by
  have hpristine := MemoryBus.pristine_foldl_addDevice devices
  generalize hstore : devices.foldl MemoryBus.addDevice {} = store at hpristine
  have hfind : store.devices.find? ((id.map (instanceName name)).getD name) = some blueprint := by
    rw [← hstore, MemoryBus.find?_devices_foldl_addDevice, hlast, Option.some_or]
  obtain ⟨log, hopen⟩ := openDevice_eq name id { store }
  have hready : blueprint.IsReady { store, log, opened := 1 } (devices = [blueprint])
      ⟨0, blueprint.base⟩ := by
    refine ⟨hpristine.equipped _ _ hfind, ?_⟩
    rintro rfl base group attributes hends
    refine starts_of_endsGroup rfl hpristine.willing ?_ hends
    intro path
    rw [← hstore]
    exact (MemoryBus.file?_addDevice {} blueprint path).trans Option.or_none
  obtain ⟨record, hrecord, hbase, hmirror⟩ := hready.exists_record id
  have hlookup : store.lookup name id = .ok record := by
    rw [MemoryBus.lookup, if_neg hname, hpristine.willing.1]
    simp only [hfind, hrecord]
  rw [hlookup] at hopen
  simp only [hbase] at hopen
  exact ⟨_, _, hopen, hmirror⟩

/-- One attribute is given twice, and both times it shows what it was given last. -/
def Memory.Blueprint.digitizer : Blueprint where
  name := "adc"
  id := some 5
  attributes := [("gain", 1), ("offset", 2), ("gain", 3)]
  extendedAttributes := [("gain", 7)]
  sets := [
    { direction := .input, channels := 2, channelAttributes := [("range", 10)] },
    { direction := .output, channels := 1, triggerAttributes := [("rate", 50)] }]

open Memory.Blueprint in
theorem Bus.openDevice_mirrors_digitizer :
    [digitizer].reverse.find? (·.key = instanceName "adc" 5) = some digitizer ∧
      ∃ device after,
        openDevice "adc" (some 5) { store := [digitizer].foldl MemoryBus.addDevice {} } =
          (.ok device, after) ∧
        device.sets.length = 2 ∧
        List.Forall₂ (fun a value => (a.read after).1 = .ok value) device.node.attributes
          [3, 2, 3, 7] := by
  have hlast : [digitizer].reverse.find? (·.key = instanceName "adc" 5) = some digitizer := by
    decide
  obtain ⟨device, after, hopen, hmirror⟩ := openDevice_mirrors "adc" (some 5) (by decide) hlast
  refine ⟨hlast, device, after, hopen, hmirror.length_sets, ?_⟩
  have hvalues := hmirror.node.values rfl
  have hgiven : (digitizer.attributes.take 16).map (fun a => lastGiven digitizer.attributes a.1) ++
      (digitizer.extendedAttributes.take 32).map
        (fun a => lastGiven digitizer.extendedAttributes a.1) = [3, 2, 3, 7].map some := by
    decide
  rw [hgiven, List.forall₂_map_right_iff] at hvalues
  refine hvalues.imp ?_
  rintro a _ ⟨value, hvalue, hread⟩
  cases hvalue
  exact hread

end DaqBus

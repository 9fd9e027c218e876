import DaqBus.Proofs.Memory.Names
import DaqBus.Proofs.World.Turns

/-!
# Devices are isolated

Whatever is done through one device, another one with a different key answers as if it had not been
done: its files lie in a directory of their own and its openings have numbers of their own. This holds
of its blocks as well, unless the two devices share the names of their channels, which they do if they
have the same name and one of them has no number where the other has number zero.
-/

namespace DaqBus

open Memory Effect

namespace Turn

variable {turns : List Turn} {blueprint found other : Blueprint} {device : Device}

/-! ### Sessions -/

/-- In one of the turns the device was opened, with the blueprint that was registered then. -/
def IsSession (turns : List Turn) (blueprint : Blueprint) (device : Device) : Prop :=
  ∃ k name id, turns[k]? = some (.opens name id) ∧
    (bus (turns.take k)).store.devices.find? ((id.map (instanceName name)).getD name) =
      some blueprint ∧
    (Bus.openDevice name id (bus (turns.take k))).1 = .ok device

/-- No other blueprint is registered with the key. -/
def RegistersOnly (turns : List Turn) (blueprint : Blueprint) : Prop :=
  ∀ added, .changes (.addDevice added) ∈ turns → added.key = blueprint.key → added = blueprint

theorem IsSession.append (h : IsSession turns blueprint device) (later : List Turn) :
    IsSession (turns ++ later) blueprint device := by
  obtain ⟨k, name, id, hturn, hfind, hopen⟩ := h
  obtain ⟨hlt, -⟩ := List.getElem?_eq_some_iff.mp hturn
  have htake : (turns ++ later).take k = turns.take k :=
    List.take_append_of_le_length (Nat.le_of_lt hlt)
  refine ⟨k, name, id, by rw [List.getElem?_append_left hlt, hturn], ?_⟩
  rw [htake]
  exact ⟨hfind, hopen⟩

theorem IsSession.registered (h : IsSession turns blueprint device) :
    .changes (.addDevice blueprint) ∈ turns := by
  obtain ⟨k, name, id, -, hfind, -⟩ := h
  exact List.mem_of_mem_take (registered_of_find? hfind).2

theorem bus_take_succ {k : Nat} {turn : Turn} (h : turns[k]? = some turn) :
    bus (turns.take (k + 1)) = (turn.run (bus (turns.take k))).2 := by
  rw [List.take_add_one, h, Option.toList_some, bus_append_singleton]

theorem IsSession.exists_record (h : IsSession turns blueprint device) :
    ∃ k name id record, turns[k]? = some (.opens name id) ∧
      (bus (turns.take k)).store.devices.find? ((id.map (instanceName name)).getD name) =
        some blueprint ∧
      blueprint.record? (bus (turns.take k)).store.streams.find? = some record ∧
      device = Device.ofRecord ⟨(bus (turns.take k)).opened, record.head.base⟩ id record ∧
      (bus (turns.take (k + 1))).opened = (bus (turns.take k)).opened + 1 := by
  obtain ⟨k, name, id, hturn, hfind, hopen⟩ := h
  obtain ⟨-, -, hopened, record, found, hfound, hrecord, hdevice⟩ :=
    Bus.openDevice_eq_ok (Prod.ext hopen rfl)
  rw [hfind] at hfound
  cases Option.some.inj hfound
  refine ⟨k, name, id, record, hturn, hfind, hrecord, hdevice, ?_⟩
  rw [bus_take_succ hturn]
  exact hopened

/-- Different openings have different numbers. -/
theorem IsSession.number_ne {device' : Device} (h : IsSession turns blueprint device)
    (h' : IsSession turns other device') (hne : blueprint ≠ other) :
    device.opening.number ≠ device'.opening.number := by
  obtain ⟨k, name, id, record, hturn, hfind, -, rfl, hopened⟩ := h.exists_record
  obtain ⟨k', name', id', record', hturn', hfind', -, rfl, hopened'⟩ := h'.exists_record
  have hmono {m n : Nat} (hlt : m < n) :
      (bus (turns.take (m + 1))).opened ≤ (bus (turns.take n)).opened := by
    obtain ⟨rest, htake⟩ : turns.take (m + 1) <+: turns.take n := List.take_prefix_take_left hlt
    rw [← htake]
    exact opened_bus_le _ rest
  show (bus (turns.take k)).opened ≠ (bus (turns.take k')).opened
  rcases Nat.lt_trichotomy k k' with hlt | rfl | hlt
  · have := hmono hlt
    omega
  · rw [hturn] at hturn'
    cases hturn'
    rw [hfind] at hfind'
    exact absurd (Option.some.inj hfind') hne
  · have := hmono hlt
    omega

theorem IsSession.unique (h : IsSession turns blueprint device)
    (h' : IsSession turns other device) : blueprint = other :=
  Classical.byContradiction fun hne => h.number_ne h' hne rfl

/-- What lasts of an opening: the places of the files, the number, and the labels of the queues. -/
structure Founded (labels : List String) (blueprint : Blueprint) (device : Device) : Prop where
  below : ∀ handle ∈ device.handles, Below blueprint.base handle.path
  opening_eq : ∀ handle ∈ device.handles, handle.opening = device.opening
  channel : ∀ {index channel}, device.channel? index = some channel →
    channel.opening = device.opening ∧ blueprint.HasChannel index ∧
    channel.node.deviceName = blueprint.channelDeviceName index.set index.channel ∧
    labels[channel.streams.data]? = some channel.node.deviceName ∧
    labels[channel.streams.control]? = some channel.node.deviceName

theorem IsSession.founded (h : IsSession turns blueprint device) :
    Founded (turns.flatMap made) blueprint device := by
  obtain ⟨k, name, id, record, -, -, hrecord, rfl, -⟩ := h.exists_record
  have hlabels : turns.flatMap made = (turns.take k).flatMap made ++ (turns.drop k).flatMap made := by
    rw [← List.flatMap_append, List.take_append_drop]
  refine ⟨fun handle hhandle => ?_, fun handle => Device.opening_of_mem_handles,
    fun hchannel => ⟨Device.opening_of_channel? hchannel,
      Blueprint.hasChannel_of_channel? hrecord hchannel, ?_⟩⟩
  · exact Blueprint.below_of_record? hrecord (Device.path_of_mem_handles hhandle)
  · obtain ⟨hname, hfind⟩ := Blueprint.streams_of_channel? hrecord hchannel
    obtain ⟨hdata, hcontrol⟩ := (labelled_bus (turns.take k)).label hfind
    rw [hlabels]
    exact ⟨hname, MemoryBus.getElem?_of_append hdata _, MemoryBus.getElem?_of_append hcontrol _⟩

end Turn

/-! ### Everything but one device -/

namespace Memory.Blueprint

variable {blueprint other found : Blueprint} {i j : Nat}

/-- The name is unlike those of the channels of the one device, or the other one has it. -/
def Leaves (blueprint other : Blueprint) (name : String) : Prop :=
  (∃ i j, name = blueprint.channelDeviceName i j) → name ∈ other.channelNames

theorem deviceName_eq_of_mem_channelNames
    (h : found.channelDeviceName i j ∈ other.channelNames) : found.deviceName = other.deviceName := by
  obtain ⟨index, -, hname⟩ := exists_index_of_mem_channelNames h
  exact (channelDeviceName_inj hname).1

/-- Under a third key, the names of channels are left if the device is not called like the one. -/
theorem leaves_iff (hkey : blueprint.key ≠ other.key) (hown : found.key ≠ blueprint.key)
    (hother : found.key ≠ other.key) :
    blueprint.Leaves other (found.channelDeviceName i j) ↔
      found.deviceName ≠ blueprint.deviceName := by
  constructor
  · intro hleaves hsame
    have hlike : found.channelDeviceName i j = blueprint.channelDeviceName i j := by
      simp only [channelDeviceName, setDeviceName, hsame]
    have hsame' := deviceName_eq_of_mem_channelNames (hleaves ⟨i, j, hlike⟩)
    rcases key_eq_of_deviceName hsame hsame' with h | h | h
    · exact hown h
    · exact hother h
    · exact hkey h
  · rintro hne ⟨i', j', hlike⟩
    exact absurd (channelDeviceName_inj hlike).1 hne

end Memory.Blueprint

namespace Scope

variable {F : Scope} {turns : List Turn} {blueprint found other : Blueprint} {device : Device}
  {parts : Parts} {counts : Bool}

/-- All along the turns, these parts of the device are in sight, and the others are not. -/
structure Follows (F : Scope) (turns : List Turn) (parts : Parts) (device : Device) : Prop where
  hosts : F.Hosts parts device
  wires : ∀ before, before <+: turns → F.Wires parts.streams device (Turn.bus before).store

/-- What is not of the one device: the files outside its directory, other openings than its own, and, if
streams count, the queues that were not made for channels with names of its own. -/
def beside (turns : List Turn) (blueprint other : Blueprint) (counts : Bool) : Scope where
  paths path := ¬ Below blueprint.base path
  streams id := counts = true ∧
    ∀ name, (turns.flatMap Turn.made)[id]? = some name → blueprint.Leaves other name
  openings number :=
    ∀ device, Turn.IsSession turns blueprint device → number ≠ device.opening.number

theorem follows_beside (h : Turn.IsSession turns found device)
    (hname : '/' ∉ blueprint.name.toList) (hopening : parts.opening = true ↔ found ≠ blueprint)
    (hfiles : parts.files = true ↔ ¬ Below blueprint.base (entry found.base ""))
    (hstreams : ∀ index, found.HasChannel index → (parts.streams = true ↔ counts = true ∧
      blueprint.Leaves other (found.channelDeviceName index.set index.channel)))
    (hopen : parts.streams = true → parts.opening = true) :
    (beside turns blueprint other counts).Follows turns parts device := by
  have hfounded := h.founded
  have hnumber : (beside turns blueprint other counts).openings device.opening.number ↔
      parts.opening = true := by
    rw [hopening]
    constructor
    · rintro hseen rfl
      exact hseen device h rfl
    · exact fun hne session hsession => h.number_ne hsession hne
  have hqueue {index : ChannelIndex} {channel : Channel}
      (hchannel : device.channel? index = some channel) {id : StreamId}
      (hlabel : (turns.flatMap Turn.made)[id]? = some channel.node.deviceName) :
      (beside turns blueprint other counts).streams id ↔ parts.streams = true := by
    obtain ⟨-, hhas, hnode, -⟩ := hfounded.channel hchannel
    rw [hstreams index hhas, ← hnode]
    refine and_congr_right fun _ => ⟨fun hleaves => hleaves _ hlabel, fun hleaves name hlabel' => ?_⟩
    rw [hlabel] at hlabel'
    exact Option.some.inj hlabel' ▸ hleaves
  refine ⟨⟨hnumber, fun handle hhandle => ⟨?_, fun hvisible => ?_⟩, fun hchannel => ?_⟩, ?_⟩
  · show ¬ Below blueprint.base handle.path ↔ parts.files = true
    rw [Blueprint.below_base_iff hname (hfounded.below handle hhandle), hfiles]
  · rw [hfounded.opening_eq handle hhandle]
    refine hnumber.mpr (hopening.mpr ?_)
    rintro rfl
    exact hfiles.mp hvisible (below_entry _ _)
  · obtain ⟨hopened, -, -, hdata, hcontrol⟩ := hfounded.channel hchannel
    refine ⟨hqueue hchannel hdata, hqueue hchannel hcontrol, fun hvisible => ?_⟩
    rw [hopened]
    exact hnumber.mpr (hopen hvisible)
  · rintro before ⟨rest, hbefore⟩ index channel pair hchannel hpair
    obtain ⟨hdata, hcontrol⟩ := (Turn.labelled_bus before).label hpair
    have hlabel {id : StreamId}
        (hid : (before.flatMap Turn.made)[id]? = some channel.node.deviceName) :
        (turns.flatMap Turn.made)[id]? = some channel.node.deviceName := by
      rw [← hbefore, List.flatMap_append]
      exact MemoryBus.getElem?_of_append hid _
    exact ⟨hqueue hchannel (hlabel hdata), hqueue hchannel (hlabel hcontrol)⟩

/-- Beside the one device, every other one is in sight as far as it has nothing in common with it. -/
theorem exists_follows_beside (hkey : blueprint.key ≠ other.key)
    (hname : '/' ∉ blueprint.name.toList) (hname' : '/' ∉ other.name.toList)
    (honly : Turn.RegistersOnly turns blueprint) (honly' : Turn.RegistersOnly turns other)
    (hcounts : counts = true → ¬ blueprint.SharesNames other)
    (h : Turn.IsSession turns found device) :
    ∃ parts, (beside turns blueprint other counts).Follows turns parts device ∧
      (found = blueprint → parts = {}) ∧ (found = other → parts = ⟨true, true, counts⟩) := by
  by_cases hown : found = blueprint
  · subst hown
    refine ⟨{}, follows_beside h hname (by simp) ?_ (fun index hhas => ?_) (by simp), fun _ => rfl,
      fun hsame => absurd (congrArg Blueprint.key hsame) hkey⟩
    · simpa using below_entry found.base ""
    · refine iff_of_false Bool.false_ne_true fun ⟨hcount, hleaves⟩ => hcounts hcount ?_
      exact ⟨_, Blueprint.channelDeviceName_mem hhas, hleaves ⟨_, _, rfl⟩⟩
  by_cases hother : found = other
  · subst hother
    refine ⟨⟨true, true, counts⟩, follows_beside h hname (by simp [hown]) ?_ (fun index hhas => ?_)
      (by simp), fun hsame => absurd hsame hown, fun _ => rfl⟩
    · simpa using Blueprint.not_below_base hname' hname hkey.symm (below_entry found.base "")
    · simp [Blueprint.Leaves, Blueprint.channelDeviceName_mem hhas]
  classical
  refine ⟨⟨true, decide ¬ Below blueprint.base (entry found.base ""),
    counts && decide (found.deviceName ≠ blueprint.deviceName)⟩,
    follows_beside h hname (by simp [hown]) (by simp) (fun index hhas => ?_) (by simp),
    fun hsame => absurd hsame hown, fun hsame => absurd hsame hother⟩
  rw [Blueprint.leaves_iff hkey (fun hsame => hown (honly _ h.registered hsame))
    fun hsame => hother (honly' _ h.registered hsame)]
  simp

end Scope

/-! ### Two runs -/

namespace Turn

variable {F : Scope} {parts : Scope.Parts} {counts : Bool} {turns before later : List Turn}
  {device : Device} {blueprint other : Blueprint} {own seen : Device → Bool} {b c : Bus MemoryBus}

/-- The same task on both buses. -/
theorem alike_perform_both (hhosts : F.Hosts parts device)
    (hwires : F.Wires parts.streams device b.store) (h : F.Alike b c) (task : Device.Task) :
    (task.isSeen parts = true → (device.perform task b).1 = (device.perform task c).1) ∧
      F.Alike (device.perform task b).2 (device.perform task c).2 := by
  have hkeeps := hhosts.keepsAt_perform hwires h task
  cases hseen : task.isSeen parts with
  | true =>
      rw [hseen] at hkeeps
      exact ⟨fun _ => hkeeps.1, hkeeps.2⟩
  | false =>
      -- The task escapes notice on both sides, one after the other.
      have hwires' : F.Wires parts.streams device c.store := fun hchannel hpair =>
        hwires hchannel (h.store.register ▸ hpair)
      rw [hseen] at hkeeps
      have hboth := hhosts.keepsAt_perform hwires' (Scope.Alike.symm hkeeps) task
      rw [hseen] at hboth
      exact ⟨fun hvisible => absurd hvisible Bool.false_ne_true, Scope.Alike.symm hboth⟩

/-- Whether a turn through one of the devices is told of, where transfers may not count. -/
def isTold (counts : Bool) (seen : Device → Bool) (turn : Turn) : Bool :=
  turn.isBy seen && (counts || !turn.isTransfer)

/-- **Two runs.** The turns through the devices in sight tell the same as if those through the hidden
ones were not taken. -/
theorem told_trace (before : List Turn) (hfollows : ∀ device task, .works device task ∈ later →
      ∃ parts, F.Follows (before ++ later) parts device ∧ (own device = true → parts = {}) ∧
        (seen device = true → parts = ⟨true, true, counts⟩))
    (h : F.Alike (bus before) c) :
    (trace (bus before) later).filter (·.1.isTold counts seen) =
      (trace c (later.filter (!·.isBy own))).filter (·.1.isTold counts seen) := by
  induction later generalizing before c with
  | nil => rfl
  | cons turn later ih =>
      have hnext {c : Bus MemoryBus} (h : F.Alike (turn.run (bus before)).2 c) :
          (trace (turn.run (bus before)).2 later).filter (·.1.isTold counts seen) =
            (trace c (later.filter (!·.isBy own))).filter (·.1.isTold counts seen) := by
        rw [← bus_append_singleton] at h ⊢
        refine ih _ (fun device task hmem => ?_) h
        rw [List.append_assoc]
        exact hfollows device task (List.mem_cons_of_mem turn hmem)
      have hkept (hby : turn.isBy own = false)
          (hsame : turn.isTold counts seen = true → (turn.run (bus before)).1 = (turn.run c).1)
          (hafter : F.Alike (turn.run (bus before)).2 (turn.run c).2) :
          (trace (bus before) (turn :: later)).filter (·.1.isTold counts seen) =
            (trace c ((turn :: later).filter (!·.isBy own))).filter (·.1.isTold counts seen) := by
        rw [List.filter_cons_of_pos (by simp [hby]), trace, trace]
        cases htold : turn.isTold counts seen with
        | true =>
            rw [List.filter_cons_of_pos (by simpa using htold),
              List.filter_cons_of_pos (by simpa using htold), hsame htold]
            exact congrArg (_ :: ·) (hnext hafter)
        | false =>
            rw [List.filter_cons_of_neg (by simp [htold]), List.filter_cons_of_neg (by simp [htold])]
            exact hnext hafter
      cases turn with
      | changes change =>
          exact hkept rfl (fun _ => rfl) ⟨h.store.apply change, h.opened, h.isClosed⟩
      | opens name id =>
          obtain ⟨hsame, hafter⟩ := h.openDevice name id
          exact hkept rfl (fun _ => congrArg Reply.opened hsame) hafter
      | works device task =>
          obtain ⟨parts, hparts, hown, hseen⟩ := hfollows device task List.mem_cons_self
          have hwires : F.Wires parts.streams device (bus before).store :=
            hparts.wires before (List.prefix_append before _)
          cases hby : own device with
          | true =>
              obtain rfl := hown hby
              have hunseen : seen device = false :=
                Bool.eq_false_iff.mpr fun hvisible => nomatch hseen hvisible
              have hkeeps := hparts.hosts.keepsAt_perform hwires h task
              rw [task.isSeen_hidden] at hkeeps
              rw [trace, List.filter_cons_of_neg (by simp [isTold, isBy, hunseen]),
                List.filter_cons_of_neg (by simp [isBy, hby])]
              exact hnext hkeeps
          | false =>
              obtain ⟨hsame, hafter⟩ := alike_perform_both hparts.hosts hwires h task
              refine hkept hby (fun htold => congrArg Reply.worked (hsame ?_)) hafter
              simp only [isTold, isBy, isTransfer, Bool.and_eq_true] at htold
              obtain ⟨hvisible, hcount⟩ := htold
              obtain rfl := hseen hvisible
              cases task <;> simp_all [Device.Task.isSeen, Device.Task.isTransfer]

/-! ### Isolation -/

/-- **Devices are isolated.** Of two devices that were registered with different keys, one answers as
if nothing had been done through the other, whatever is done in whichever order through their openings
and those of further devices, and whatever the store is told in between. Only what is in the streams
need not be isolated, and this only if channels of the two devices share a name: if the devices have
one name, one has number zero and the other none, and both have a channel with the same index. -/
theorem isolated {turns : List Turn} {blueprint other : Blueprint} {own seen : Device → Bool}
    (hkey : blueprint.key ≠ other.key)
    (hname : '/' ∉ blueprint.name.toList) (hname' : '/' ∉ other.name.toList)
    (honly : RegistersOnly turns blueprint) (honly' : RegistersOnly turns other)
    (hopened : ∀ device task, .works device task ∈ turns → ∃ found, IsSession turns found device)
    (hown : ∀ device, own device = true → IsSession turns blueprint device)
    (hseen : ∀ device, seen device = true → IsSession turns other device) :
    let told := (trace { store := {} } turns).filter (·.1.isBy seen)
    let untold := (trace { store := {} } (turns.filter (!·.isBy own))).filter (·.1.isBy seen)
    told.filter (!·.1.isTransfer) = untold.filter (!·.1.isTransfer) ∧
    (¬ blueprint.SharesNames other → told = untold) ∧
    (blueprint.SharesNames other ↔ blueprint.name = other.name ∧
      (blueprint.id = none ∧ other.id = some 0 ∨ blueprint.id = some 0 ∧ other.id = none) ∧
      ∃ index, blueprint.HasChannel index ∧ other.HasChannel index) := by
  intro told untold
  have hruns (counts : Bool) (hcounts : counts = true → ¬ blueprint.SharesNames other) :
      (trace { store := {} } turns).filter (·.1.isTold counts seen) =
        (trace { store := {} } (turns.filter (!·.isBy own))).filter (·.1.isTold counts seen) := by
    refine told_trace (F := Scope.beside turns blueprint other counts) []
      (fun device task hmem => ?_) (Scope.alike_refl _)
    obtain ⟨found, hsession⟩ := hopened device task hmem
    obtain ⟨parts, hfollows, hhidden, hvisible⟩ :=
      Scope.exists_follows_beside hkey hname hname' honly honly' hcounts hsession
    exact ⟨parts, hfollows, fun h => hhidden (hsession.unique (hown device h)),
      fun h => hvisible (hsession.unique (hseen device h))⟩
  refine ⟨?_, fun hnames => ?_, Blueprint.sharesNames_iff hkey⟩
  · have hfiles := hruns false fun h => absurd h Bool.false_ne_true
    simp only [told, untold, List.filter_filter]
    simpa only [isTold, Bool.false_or, Bool.and_comm] using hfiles
  · simpa [isTold] using hruns true fun _ => hnames

/-! ### Twins

Two devices of one name with an input channel each. The one without a number takes a block that was
meant for the other one, if this has number zero. -/

def twin (id : Option UInt32) : Blueprint where
  name := "a"
  id := id
  sets := [{ direction := .input, channels := 1 }]

def twinOpenings (id : UInt32) : List Turn :=
  [.changes (.addDevice (twin none)), .changes (.addDevice (twin (some id))), .opens "a" none,
    .opens "a" (some id)]

/-- What is opened in turn `k`. -/
def twinDevice (id : UInt32) (k : Nat) (number : Option UInt32) : Device :=
  match (Bus.openDevice "a" number (bus ((twinOpenings id).take k))).1 with
  | .ok device => device
  | .error _ => World.benchDevice 0

def twinTurns (id : UInt32) : List Turn :=
  let index : ChannelIndex := ⟨0, 0⟩
  let header : Control.Header := { sampleCount := 1, sampleSize := 1 }
  let other := twinDevice id 3 (some id)
  twinOpenings id ++ [.works other (.pushes index ⟨header.encode, [9]⟩),
    .works (twinDevice id 2 none) (.readsBlock index), .works other (.readsBlock index),
    .works other (.readsControl index)]

def delivers : Turn × Reply → Bool
  | (_, .worked (.ok (.block _))) => true
  | _ => false

variable {id : UInt32}

theorem isSession_twinDevice {k : Nat} {number : Option UInt32}
    (hturn : (twinOpenings id)[k]? = some (.opens "a" number))
    (hfind : (bus ((twinOpenings id).take k)).store.devices.find?
      ((number.map (instanceName "a")).getD "a") = some (twin number))
    (hopen : (Bus.openDevice "a" number (bus ((twinOpenings id).take k))).1.isOk) :
    IsSession (twinTurns id) (twin number) (twinDevice id k number) := by
  refine IsSession.append ⟨k, "a", number, hturn, hfind, ?_⟩ _
  unfold twinDevice
  cases houtcome : (Bus.openDevice "a" number (bus ((twinOpenings id).take k))).1 with
  | ok device => rfl
  | error failure =>
      rw [houtcome] at hopen
      cases hopen

theorem mem_twinTurns {task : Device.Task} (hmem : .works device task ∈ twinTurns id) :
    device = twinDevice id 2 none ∨ device = twinDevice id 3 (some id) := by
  simp only [twinTurns, twinOpenings, List.cons_append, List.nil_append, List.mem_cons,
    List.not_mem_nil, or_false, works.injEq, reduceCtorEq, false_or] at hmem
  rcases hmem with ⟨hdevice, -⟩ | ⟨hdevice, -⟩ | ⟨hdevice, -⟩ | ⟨hdevice, -⟩
  · exact .inr hdevice
  · exact .inl hdevice
  · exact .inr hdevice
  · exact .inr hdevice

theorem registersOnly_twin (hkey : (twin none).key ≠ (twin (some id)).key) {number : Option UInt32}
    (hnumber : number = none ∨ number = some id) : RegistersOnly (twinTurns id) (twin number) := by
  intro added hmem hsame
  simp only [twinTurns, twinOpenings, List.cons_append, List.nil_append, List.mem_cons,
    List.not_mem_nil, or_false, changes.injEq, MemoryBus.Change.addDevice.injEq,
    reduceCtorEq] at hmem
  rcases hmem with rfl | rfl <;> rcases hnumber with rfl | rfl
  · rfl
  · exact absurd hsame hkey
  · exact absurd hsame hkey.symm
  · rfl

theorem isolated_twins :
    (let told := (trace { store := {} } (twinTurns 0)).filter
        (·.1.isBy (· = twinDevice 0 3 (some 0)))
      let untold := (trace { store := {} } ((twinTurns 0).filter
        (!·.isBy (· = twinDevice 0 2 none)))).filter (·.1.isBy (· = twinDevice 0 3 (some 0)))
      told.filter (!·.1.isTransfer) = untold.filter (!·.1.isTransfer) ∧
      told.map delivers = [false, false, false] ∧ untold.map delivers = [false, true, false]) ∧
    let told := (trace { store := {} } (twinTurns 1)).filter
      (·.1.isBy (· = twinDevice 1 3 (some 1)))
    told = (trace { store := {} } ((twinTurns 1).filter
      (!·.isBy (· = twinDevice 1 2 none)))).filter (·.1.isBy (· = twinDevice 1 3 (some 1))) ∧
      told.map delivers = [false, true, false] := by
  have hslash (number : Option UInt32) : '/' ∉ (twin number).name.toList := by
    show '/' ∉ "a".toList
    decide
  have hdevice : IsSession (twinTurns 0) (twin none) (twinDevice 0 2 none) :=
    isSession_twinDevice rfl (by decide) (by decide)
  have hother : IsSession (twinTurns 0) (twin (some 0)) (twinDevice 0 3 (some 0)) :=
    isSession_twinDevice rfl (by decide) (by decide)
  have hdevice' : IsSession (twinTurns 1) (twin none) (twinDevice 1 2 none) :=
    isSession_twinDevice rfl (by decide) (by decide)
  have hother' : IsSession (twinTurns 1) (twin (some 1)) (twinDevice 1 3 (some 1)) :=
    isSession_twinDevice rfl (by decide) (by decide)
  have hkey : (twin none).key ≠ (twin (some 0)).key := by decide
  have hkey' : (twin none).key ≠ (twin (some 1)).key := by decide
  have hsession {id : UInt32} (h : IsSession (twinTurns id) (twin none) (twinDevice id 2 none))
      (h' : IsSession (twinTurns id) (twin (some id)) (twinDevice id 3 (some id)))
      (device : Device) (task : Device.Task) (hmem : .works device task ∈ twinTurns id) :
      ∃ found, IsSession (twinTurns id) found device := by
    -- Not by `rfl`: opening the device would be computed.
    rcases mem_twinTurns hmem with hsame | hsame
    · exact ⟨_, hsame.symm ▸ h⟩
    · exact ⟨_, hsame.symm ▸ h'⟩
  have halone {turns : List Turn} {blueprint : Blueprint} {session : Device}
      (h : IsSession turns blueprint session) (device : Device)
      (hdevice : decide (device = session) = true) : IsSession turns blueprint device :=
    of_decide_eq_true hdevice ▸ h
  obtain ⟨hsame, -, -⟩ := isolated hkey (hslash _) (hslash _) (registersOnly_twin hkey (.inl rfl))
    (registersOnly_twin hkey (.inr rfl)) (hsession hdevice hother) (halone hdevice) (halone hother)
  obtain ⟨-, hisolated, hshares⟩ := isolated hkey' (hslash _) (hslash _)
    (registersOnly_twin hkey' (.inl rfl)) (registersOnly_twin hkey' (.inr rfl))
    (hsession hdevice' hother') (halone hdevice') (halone hother')
  refine ⟨⟨hsame, by decide +kernel, by decide +kernel⟩, hisolated ?_, by decide +kernel⟩
  rw [hshares]
  rintro ⟨-, ⟨-, hnumber⟩ | ⟨hnumber, -⟩, -⟩
  · cases hnumber
  · cases hnumber

end Turn

end DaqBus

import DaqBus.Proofs.Memory.Access
import DaqBus.Proofs.Memory.Change
import DaqBus.Proofs.Memory.Opening
import DaqBus.Proofs.Tree.Handles

/-!
# Programs on a bus in memory

A program opens devices, closes or drops those it owns, works in scopes and uses handles, which it can
keep for as long as it likes; in between, the store may be changed from outside. A run is a list of such
deeds, and every point of a run is the end of a shorter one.
-/

namespace DaqBus

inductive Deed
  | opens (name : String) (id : Option UInt32)
  | closes (device : Device)
  | drops (device : Device)
  /-- Work on a device begins that lasts until its scope is left. -/
  | enters (name : String) (id : Option UInt32)
  /-- The work of the innermost scope has ended, with whatever outcome. -/
  | leaves
  | uses (access : Access)
  | changes (change : MemoryBus.Change)
deriving DecidableEq

/-- What a deed tells the program. -/
inductive Deed.Reply
  | opened (outcome : Except BusError Device)
  | answered (outcome : Except BusError Answer)
  | nothing

structure World where
  bus : Bus MemoryBus
  owned : List Device := []
  /-- The devices of the scopes that are running, the innermost first. -/
  scopes : List Device := []
  /-- The devices of all successful openings, in order. -/
  granted : List Device := []
  /-- The devices that have been closed, dropped or left, in order. -/
  ended : List Device := []

namespace World

def start (store : MemoryBus) : World where
  bus := { store }

/-- A device that is closed is dropped right after. -/
def closing (device : Device) (bus : Bus MemoryBus) : Bus MemoryBus :=
  device.teardown (device.close bus).2

def reply (w : World) : Deed → Deed.Reply
  | .opens name id => .opened (Bus.openDevice name id w.bus).1
  | .enters name id => .opened (Bus.openDevice name id (w.bus.record (.scopeEntered name id))).1
  | .uses access => .answered (access.run w.bus).1
  | .closes _ | .drops _ | .leaves | .changes _ => .nothing

def step (w : World) : Deed → World
  | .opens name id =>
    match Bus.openDevice name id w.bus with
    | (.ok device, bus) =>
      { w with bus, owned := device :: w.owned, granted := w.granted ++ [device] }
    | (.error _, bus) => { w with bus }
  | .enters name id =>
    match Bus.openDevice name id (w.bus.record (.scopeEntered name id)) with
    | (.ok device, bus) =>
      { w with bus, scopes := device :: w.scopes, granted := w.granted ++ [device] }
    | (.error _, bus) => { w with bus }
  | .closes device =>
    if device ∈ w.owned then
      { w with
        bus := closing device w.bus
        owned := w.owned.erase device
        ended := w.ended ++ [device] }
    else w
  | .drops device =>
    if device ∈ w.owned then
      { w with
        bus := device.teardown w.bus
        owned := w.owned.erase device
        ended := w.ended ++ [device] }
    else w
  | .leaves =>
    match w.scopes with
    | [] => w
    | device :: scopes =>
      { w with bus := closing device w.bus, scopes, ended := w.ended ++ [device] }
  | .uses access => { w with bus := (access.run w.bus).2 }
  | .changes change => { w with bus := { w.bus with store := change.apply w.bus.store } }

def run (w : World) (deeds : List Deed) : World :=
  deeds.foldl step w

/-- The replies to deeds, each given when its turn comes. -/
def replies (w : World) : List Deed → List Deed.Reply
  | [] => []
  | deed :: rest => w.reply deed :: (w.step deed).replies rest

variable {w : World} {deed : Deed} {device : Device}

@[simp]
theorem run_cons (w : World) (deed : Deed) (deeds : List Deed) :
    w.run (deed :: deeds) = (w.step deed).run deeds := rfl

theorem run_append (w : World) (deeds later : List Deed) :
    w.run (deeds ++ later) = (w.run deeds).run later :=
  List.foldl_append

theorem run_concat (w : World) (deeds : List Deed) (deed : Deed) :
    w.run (deeds ++ [deed]) = (w.run deeds).step deed :=
  run_append w deeds [deed]

/-- What holds at first and is kept by every deed holds at every point. -/
theorem run_induction {motive : World → Prop} (hstart : motive w)
    (hstep : ∀ w deed, motive w → motive (w.step deed)) (deeds : List Deed) :
    motive (w.run deeds) := by
  induction deeds generalizing w with
  | nil => exact hstart
  | cons deed deeds ih => exact ih (hstep w deed hstart)

theorem closing_eq (device : Device) (bus : Bus MemoryBus) :
    closing device bus = device.teardown bus :=
  device.teardown_teardown bus

/-! ### What a deed can do -/

/-- The devices that are open. -/
def live (w : World) : List Device :=
  w.owned ++ w.scopes

/-- Nothing happens but for what the log says. -/
def Idles (w next : World) : Prop :=
  ∃ log, next = { w with bus := { w.bus with log } }

def Grants (w next : World) (device : Device) : Prop :=
  ∃ id record log owned scopes,
    device = Device.ofRecord ⟨w.bus.opened, record.head.base⟩ id record ∧
    next = { w with
      bus := { w.bus with log, opened := w.bus.opened + 1 }
      owned, scopes
      granted := w.granted ++ [device] } ∧
    next.live.Perm (device :: w.live)

def Ends (w next : World) (device : Device) : Prop :=
  ∃ owned scopes,
    next = { w with bus := device.teardown w.bus, owned, scopes, ended := w.ended ++ [device] } ∧
    w.live.Perm (device :: next.live)

theorem Ends.of_closing {next : World} {owned scopes : List Device}
    (hnext : next = { w with
      bus := closing device w.bus, owned, scopes, ended := w.ended ++ [device] })
    (hlive : w.live.Perm (device :: (owned ++ scopes))) : Ends w next device := by
  subst hnext
  rw [closing_eq]
  exact ⟨owned, scopes, rfl, hlive⟩

/-- **What a deed can do.** It opens one device, ends one, works on the store, or does nothing. -/
theorem step_cases (w : World) (deed : Deed) :
    Idles w (w.step deed) ∨ (∃ device, Grants w (w.step deed) device) ∨
      (∃ device, Ends w (w.step deed) device) ∨ (∃ access, deed = .uses access) ∨
      ∃ change, deed = .changes change := by
  have herase {device : Device} (h : device ∈ w.owned) :
      w.live.Perm (device :: (w.owned.erase device ++ w.scopes)) :=
    (List.perm_cons_erase h).append_right w.scopes
  cases deed with
  | opens name id =>
      rcases Bus.openDevice_cases name id w.bus with ⟨failure, log, hopen⟩ | ⟨record, log, hopen⟩
      · left
        exact ⟨log, by rw [step, hopen]⟩
      · right; left
        refine ⟨_, id, record, log, _, w.scopes, rfl, by rw [step, hopen], ?_⟩
        rw [step, hopen]
        exact List.Perm.refl _
  | enters name id =>
      rcases Bus.openDevice_cases name id (w.bus.record (.scopeEntered name id)) with
        ⟨failure, log, hopen⟩ | ⟨record, log, hopen⟩
      · left
        exact ⟨log, by rw [step, hopen]; rfl⟩
      · right; left
        refine ⟨_, id, record, log, w.owned, _, rfl, by rw [step, hopen]; rfl, ?_⟩
        rw [step, hopen]
        exact List.perm_middle
  | closes device =>
      by_cases howned : device ∈ w.owned
      · right; right; left
        exact ⟨device, .of_closing (by rw [step, if_pos howned]) (herase howned)⟩
      · left
        exact ⟨w.bus.log, by rw [step, if_neg howned]⟩
  | drops device =>
      by_cases howned : device ∈ w.owned
      · right; right; left
        refine ⟨device, _, w.scopes, by rw [step, if_pos howned], ?_⟩
        rw [step, if_pos howned]
        exact herase howned
      · left
        exact ⟨w.bus.log, by rw [step, if_neg howned]⟩
  | leaves =>
      cases hscopes : w.scopes with
      | nil =>
          left
          have hstep : w.step .leaves = w := by rw [step, hscopes]
          rw [hstep]
          exact ⟨w.bus.log, rfl⟩
      | cons device scopes =>
          right; right; left
          have hlive : w.live.Perm (device :: (w.owned ++ scopes)) := by
            rw [live, hscopes]
            exact List.perm_middle
          refine ⟨device, .of_closing ?_ hlive⟩
          rw [step, hscopes]
  | uses access => simp
  | changes change => simp

/-! ### A bench

One device without channel-sets, which can be opened any number of times. It is off. -/

def benchBlueprint : Memory.Blueprint where
  name := "a"

def benchRecord : DeviceRecord where
  head := Memory.head benchBlueprint.base "a" benchBlueprint.deviceName .device
  sets := []

def benchStore : MemoryBus where
  files := ⟨[(benchRecord.head.enable, { content := Memory.line "0" })]⟩
  devices := ⟨[("a", benchBlueprint)]⟩

def benchDevice (number : Nat) : Device :=
  Device.ofRecord ⟨number, benchRecord.head.base⟩ none benchRecord

end World

end DaqBus

import DaqBus.Proofs.World.Basic
import Mathlib.Data.List.Nodup

/-!
# Releases

Every device that has been opened is owned, or in a scope, or has ended, and it is one of these. A device
that ends is released then, so the releases are the directories of the ended devices in their order.
-/

namespace DaqBus

namespace Device

/-- A tree as an opening builds it. -/
def IsBuilt (device : Device) : Prop :=
  ∃ number id record, device = ofRecord ⟨number, record.head.base⟩ id record

variable {device : Device}

theorem IsBuilt.base_eq (h : device.IsBuilt) : device.opening.base = device.node.base := by
  obtain ⟨number, id, record, rfl⟩ := h
  rfl

theorem IsBuilt.opening_eq (h : device.IsBuilt) {handle : Attribute}
    (hhandle : handle ∈ device.handles) : handle.opening = device.opening := by
  obtain ⟨number, id, record, rfl⟩ := h
  exact opening_of_mem_handles hhandle

end Device

namespace World

open scoped List

/-- What is known of the devices at a point of a run that began on a store. -/
structure Accounts (store : MemoryBus) (w : World) : Prop where
  released : w.bus.store.released = store.released ++ w.ended.map fun device => device.node.base
  closed : w.bus.closed.reverse = w.ended.map fun device => device.opening.number
  numbers : w.granted.map (fun device => device.opening.number) = List.range w.bus.opened
  shares : (w.ended ++ w.live).Perm w.granted
  built : ∀ device ∈ w.granted, device.IsBuilt

variable {store : MemoryBus} {w : World} {device : Device}

theorem accounts_start (store : MemoryBus) : Accounts store (start store) where
  released := (List.append_nil _).symm
  closed := rfl
  numbers := rfl
  shares := List.Perm.refl _
  built := by simp [start]

namespace Accounts

theorem nodup_numbers (h : Accounts store w) :
    ((w.ended ++ w.live).map fun device => device.opening.number).Nodup := by
  have hperm := h.shares.map fun device => device.opening.number
  rw [h.numbers] at hperm
  exact hperm.nodup_iff.mpr List.nodup_range

theorem nodup_granted (h : Accounts store w) : w.granted.Nodup := by
  refine List.Nodup.of_map (fun device => device.opening.number) ?_
  rw [h.numbers]
  exact List.nodup_range

theorem mem_granted_of_ended (h : Accounts store w) (hended : device ∈ w.ended) :
    device ∈ w.granted :=
  h.shares.subset (List.mem_append_left _ hended)

theorem mem_granted_of_live (h : Accounts store w) (hlive : device ∈ w.live) : device ∈ w.granted :=
  h.shares.subset (List.mem_append_right _ hlive)

theorem isClosed_iff (h : Accounts store w) (number : Nat) :
    w.bus.isClosed number = true ↔ number ∈ w.ended.map fun device => device.opening.number := by
  rw [← h.closed, List.mem_reverse, Bus.isClosed, List.contains_iff_mem]

theorem isClosed_of_ended (h : Accounts store w) (hended : device ∈ w.ended) :
    w.bus.isClosed device.opening.number = true :=
  (h.isClosed_iff _).mpr (List.mem_map_of_mem hended)

theorem isOpen_of_live (h : Accounts store w) (hlive : device ∈ w.live) :
    w.bus.isClosed device.opening.number = false := by
  rw [Bool.eq_false_iff, ne_eq, h.isClosed_iff]
  intro hended
  have hnodup := h.nodup_numbers
  rw [List.map_append] at hnodup
  exact (List.nodup_append.mp hnodup).2.2 _ hended _ (List.mem_map_of_mem hlive) rfl

theorem count_ended (h : Accounts store w) (device : Device) :
    w.ended.count device = if device ∈ w.granted ∧ device ∉ w.live then 1 else 0 := by
  have hsum : w.ended.count device + w.live.count device = w.granted.count device := by
    rw [← List.count_append, h.shares.count_eq]
  by_cases hlive : device ∈ w.live
  · have hpos := List.count_pos_iff.mpr hlive
    rw [List.count_eq_one_of_mem h.nodup_granted (h.mem_granted_of_live hlive)] at hsum
    rw [if_neg fun hmem => hmem.2 hlive]
    omega
  · rw [List.count_eq_zero_of_not_mem hlive, h.nodup_granted.count, Nat.add_zero] at hsum
    simp [hsum, hlive]

theorem of_bus {bus : Bus MemoryBus} (h : Accounts store w)
    (hreleased : bus.store.released = w.bus.store.released) (hopened : bus.opened = w.bus.opened)
    (hclosed : bus.closed = w.bus.closed) : Accounts store { w with bus } :=
  ⟨hreleased.trans h.released, (congrArg List.reverse hclosed).trans h.closed,
    h.numbers.trans (congrArg List.range hopened.symm), h.shares, h.built⟩

theorem grants {next : World} (h : Accounts store w) (hgrant : Grants w next device) :
    Accounts store next := by
  obtain ⟨id, record, log, owned, scopes, hdevice, rfl, hlive⟩ := hgrant
  refine ⟨h.released, h.closed, ?_, ?_, ?_⟩
  · rw [List.map_append, h.numbers, List.range_succ, hdevice]
    rfl
  · calc w.ended ++ (owned ++ scopes)
        ~ w.ended ++ device :: w.live := hlive.append_left w.ended
      _ ~ device :: (w.ended ++ w.live) := List.perm_middle
      _ ~ device :: w.granted := h.shares.cons device
      _ ~ w.granted ++ [device] := (List.perm_append_singleton device w.granted).symm
  · intro other hmem
    rcases List.mem_append.mp hmem with hold | hnew
    · exact h.built other hold
    · rw [List.mem_singleton.mp hnew]
      exact ⟨_, id, record, hdevice⟩

/-- A device that ends was open, so this teardown is the one that releases it. -/
theorem ends {next : World} (h : Accounts store w) (hend : Ends w next device) :
    Accounts store next := by
  obtain ⟨owned, scopes, rfl, hlive⟩ := hend
  have hmem : device ∈ w.live := hlive.mem_iff.mpr List.mem_cons_self
  have hbase := (h.built device (h.mem_granted_of_live hmem)).base_eq
  obtain ⟨log, hteardown⟩ := Device.teardown_of_open (h.isOpen_of_live hmem)
  rw [hteardown]
  refine ⟨?_, ?_, h.numbers, ?_, h.built⟩
  · simp [MemoryBus.withReleased, h.released, hbase]
  · simp [h.closed]
  · calc w.ended ++ [device] ++ (owned ++ scopes)
        ~ w.ended ++ device :: (owned ++ scopes) := by simp
      _ ~ w.ended ++ w.live := (hlive.append_left w.ended).symm
      _ ~ w.granted := h.shares

theorem step (h : Accounts store w) (deed : Deed) : Accounts store (w.step deed) := by
  rcases step_cases w deed with ⟨log, hstep⟩ | ⟨device, hgrant⟩ | ⟨device, hend⟩ | ⟨access, rfl⟩ |
    ⟨change, rfl⟩
  · rw [hstep]
    exact h.of_bus rfl rfl rfl
  · exact h.grants hgrant
  · exact h.ends hend
  · rw [World.step]
    cases hserved : access.served? w.bus with
    | none =>
        obtain ⟨failure, hrun⟩ := Access.run_of_unserved hserved
        rw [hrun]
        exact h
    | some file =>
        rw [Access.run_of_served hserved]
        exact h.of_bus (access.released_effect file w.bus.store) rfl rfl
  · exact h.of_bus (change.released_apply w.bus.store) rfl rfl

end Accounts

theorem accounts_run (store : MemoryBus) (deeds : List Deed) :
    Accounts store ((start store).run deeds) :=
  run_induction (accounts_start store) (fun _ deed h => h.step deed) deeds

/-! ### Scopes -/

/-- Scoped work is what is done between entering and leaving, if the device opens. -/
theorem snd_withDevice {α : Type} {name : String} {id : Option UInt32}
    {work : Device → BusM MemoryBus BusError α} {body : List Deed} {opened : Bus MemoryBus}
    (hopen : Bus.openDevice name id (w.bus.record (.scopeEntered name id)) = (.ok device, opened))
    (hwork : ((w.step (.enters name id)).run body).bus = (work device opened).2)
    (hscopes : ((w.step (.enters name id)).run body).scopes = device :: w.scopes) :
    (Bus.withDevice name id work w.bus).2 = (w.run (.enters name id :: body ++ [.leaves])).bus := by
  rw [Bus.withDevice_eq, hopen, run_concat, run_cons]
  generalize (w.step (.enters name id)).run body = inside at hwork hscopes ⊢
  simp only [World.step, hscopes, closing_eq, hwork]

/-- **Every device is released once, when it ends.** At every point of a run the releases are the
directories of the devices that have ended. A device that was opened is among these once, and only if it
is neither owned nor in a scope; an opening that fails grants none. Scoped work is done if and only if
the device opens, its outcome is passed on, and its end ends the device. -/
theorem released_run (store : MemoryBus) (deeds : List Deed) :
    let w := (start store).run deeds
    w.bus.store.released = store.released ++ w.ended.map (fun device => device.node.base) ∧
    w.granted.Nodup ∧ w.granted.length = w.bus.opened ∧
    (∀ device, w.ended.count device = if device ∈ w.granted ∧ device ∉ w.live then 1 else 0) ∧
    (∀ name id failure, (Bus.openDevice name id w.bus).1 = .error failure →
      (w.step (.opens name id)).granted = w.granted ∧
        (w.step (.opens name id)).bus.store = w.bus.store) ∧
    ∀ (α : Type) (name : String) (id : Option UInt32) (work : Device → BusM MemoryBus BusError α),
      match Bus.openDevice name id (w.bus.record (.scopeEntered name id)) with
      | (.error failure, after) => Bus.withDevice name id work w.bus = (.error failure, after)
      | (.ok device, opened) =>
        (Bus.withDevice name id work w.bus).1 = (work device opened).1 ∧
        ∀ body, ((w.step (.enters name id)).run body).bus = (work device opened).2 →
          ((w.step (.enters name id)).run body).scopes = device :: w.scopes →
          (Bus.withDevice name id work w.bus).2 =
            (w.run (.enters name id :: body ++ [.leaves])).bus := by
  intro w
  have h : Accounts store w := accounts_run store deeds
  refine ⟨h.released, h.nodup_granted, ?_, ?_, ?_, ?_⟩
  · simpa using congrArg List.length h.numbers
  · exact h.count_ended
  · intro name id failure hfailed
    rcases Bus.openDevice_cases name id w.bus with ⟨other, log, hopen⟩ | ⟨record, log, hopen⟩
    · rw [step, hopen]
      exact ⟨rfl, rfl⟩
    · rw [hopen] at hfailed
      cases hfailed
  · intro α name id work
    have hscope := Bus.withDevice_eq name id work w.bus
    rcases hopen : Bus.openDevice name id (w.bus.record (.scopeEntered name id)) with
      ⟨failure | device, opened⟩
    · rw [hopen] at hscope
      exact hscope
    · rw [hopen] at hscope
      exact ⟨by rw [hscope], fun body => snd_withDevice hopen⟩

/-- The device is opened twice, and the second opening is over. -/
def benchDeeds : List Deed :=
  [.opens "a" none, .opens "a" none, .closes (benchDevice 1)]

/-- Work that fails at once. -/
def benchWork (_ : Device) : BusM MemoryBus BusError Unit :=
  throw (.deviceClosed "a")

theorem released_run_bench :
    let w := (start benchStore).run benchDeeds
    w.bus.store.released = [benchBlueprint.base] ∧
      (w.step (.opens "b" none)).granted = [benchDevice 0, benchDevice 1] ∧
      (Bus.withDevice "a" none benchWork w.bus).2 = (w.run [.enters "a" none, .leaves]).bus := by
  obtain ⟨hreleased, -, -, -, hfails, hscopes⟩ := released_run benchStore benchDeeds
  refine ⟨hreleased.trans ?_, ?_, ?_⟩
  · rfl
  · exact (hfails "b" none (.openFailure "b" none Errno.noDevice.message) rfl).1
  · exact (hscopes Unit "a" none benchWork).2 [] rfl rfl

end World

end DaqBus

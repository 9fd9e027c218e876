import DaqBus.Proofs.World.Release

/-!
# After a device has ended

The handles of an ended device are refused for good. To everything else the end of the device makes no
difference: the same deeds get the same replies on a bus that was not told of it.
-/

namespace DaqBus

open Memory

theorem Access.effect_withReleased (access : Access) (file : File) (store : MemoryBus)
    (released : List String) :
    access.effect file (store.withReleased released) =
      (access.effect file store).withReleased released := by
  unfold effect
  cases access.written? with
  | some content => rfl
  | none =>
      dsimp only
      split <;> rfl

theorem MemoryBus.Change.apply_withReleased (released : List String) (store : MemoryBus)
    (change : Change) :
    change.apply (store.withReleased released) = (change.apply store).withReleased released := by
  refine (change.apply_withAccounts store.reads released store).trans ?_
  rw [change.apply_eq_withAccounts]
  rfl

/-! ### Buses that differ in one opening -/

namespace Bus

/-- The buses are alike but for the releases, the log, and whether one opening is over. -/
structure Beside (number : Nat) (b c : Bus MemoryBus) : Prop where
  store : b.store = c.store.withReleased b.store.released
  opened : b.opened = c.opened
  isClosed : ∀ other ≠ number, b.isClosed other = c.isClosed other

namespace Beside

variable {b c : Bus MemoryBus} {number : Nat}

theorem of_teardown (device : Device) (bus : Bus MemoryBus) :
    Beside device.opening.number (device.teardown bus) bus := by
  refine ⟨device.store_teardown bus, device.opened_teardown bus, ?_⟩
  intro other hne
  simp [Device.isClosed_teardown, hne]

theorem record (h : Beside number b c) (event : Event) :
    Beside number (b.record event) (c.record event) :=
  ⟨h.store, h.opened, h.isClosed⟩

theorem reach_eq (h : Beside number b c) (path : String) : b.store.reach path = c.store.reach path := by
  rw [h.store]
  rfl

theorem lookup_eq (h : Beside number b c) (name : String) (id : Option UInt32) :
    b.store.lookup name id = c.store.lookup name id := by
  rw [h.store]
  rfl

theorem openDevice (h : Beside number b c) (name : String) (id : Option UInt32) :
    ∃ outcome left right, Bus.openDevice name id b = (outcome, left) ∧
      Bus.openDevice name id c = (outcome, right) ∧ Beside number left right := by
  obtain ⟨first, hleft⟩ := openDevice_eq name id b
  obtain ⟨second, hright⟩ := openDevice_eq name id c
  rw [h.lookup_eq, h.opened] at hleft
  cases hlookup : c.store.lookup name id with
  | error code =>
      rw [hlookup] at hleft hright
      exact ⟨_, _, _, hleft, hright, h.store, rfl, h.isClosed⟩
  | ok record =>
      rw [hlookup] at hleft hright
      exact ⟨_, _, _, hleft, hright, h.store, rfl, h.isClosed⟩

theorem teardown (h : Beside number b c) (device : Device) :
    Beside number (device.teardown b) (device.teardown c) := by
  refine ⟨?_, ?_, ?_⟩
  · rw [device.store_teardown b, device.store_teardown c, h.store]
    rfl
  · rw [device.opened_teardown, device.opened_teardown, h.opened]
  · intro other hother
    rw [Device.isClosed_teardown, Device.isClosed_teardown, h.isClosed other hother]

theorem run (h : Beside number b c) {access : Access} (hne : access.opening.number ≠ number) :
    (access.run b).1 = (access.run c).1 ∧ Beside number (access.run b).2 (access.run c).2 := by
  have hsame := h.isClosed access.opening.number hne
  by_cases hover : c.isClosed access.opening.number = true
  · rw [Access.run_of_closed hover, Access.run_of_closed (hsame.trans hover)]
    exact ⟨rfl, h⟩
  · have hopen : c.isClosed access.opening.number = false := by simpa using hover
    rw [Access.run_eq hopen, Access.run_eq (hsame.trans hopen), h.reach_eq]
    cases c.store.reach access.path with
    | error code => exact ⟨rfl, h⟩
    | ok file =>
        refine ⟨rfl, ?_, h.opened, h.isClosed⟩
        calc access.effect file b.store
            = access.effect file (c.store.withReleased b.store.released) := by rw [← h.store]
          _ = (access.effect file c.store).withReleased b.store.released :=
              access.effect_withReleased file c.store _
          _ = _ := by rw [← access.released_effect file b.store]

theorem changes (h : Beside number b c) (change : MemoryBus.Change) :
    Beside number { b with store := change.apply b.store } { c with store := change.apply c.store } := by
  refine ⟨?_, h.opened, h.isClosed⟩
  calc change.apply b.store
      = change.apply (c.store.withReleased b.store.released) := by rw [← h.store]
    _ = (change.apply c.store).withReleased b.store.released :=
        change.apply_withReleased b.store.released c.store
    _ = _ := by rw [← change.released_apply b.store]

end Beside

end Bus

namespace World

variable {store : MemoryBus} {w : World} {device : Device}

/-! ### Handles of an ended device -/

theorem ended_step_cases (w : World) (deed : Deed) :
    (w.step deed).ended = w.ended ∨
      ∃ device, (w.step deed).ended = w.ended ++ [device] ∧ Ends w (w.step deed) device := by
  rcases step_cases w deed with ⟨_, hstep⟩ | ⟨_, _, _, _, _, _, -, hstep, -⟩ | ⟨device, hend⟩ |
    ⟨access, rfl⟩ | ⟨change, rfl⟩
  · exact .inl (by rw [hstep])
  · exact .inl (by rw [hstep])
  · right
    refine ⟨device, ?_, hend⟩
    obtain ⟨_, _, hstep, -⟩ := hend
    rw [hstep]
  · exact .inl rfl
  · exact .inl rfl

theorem mem_ended_step (hended : device ∈ w.ended) (deed : Deed) : device ∈ (w.step deed).ended := by
  rcases ended_step_cases w deed with hsame | ⟨other, hmore, -⟩
  · rw [hsame]
    exact hended
  · rw [hmore]
    exact List.mem_append_left _ hended

theorem mem_ended_run (hended : device ∈ w.ended) (later : List Deed) :
    device ∈ (w.run later).ended :=
  run_induction (motive := fun w => device ∈ w.ended) hended
    (fun _ deed h => mem_ended_step h deed) later

theorem Accounts.run_of_ended (h : Accounts store w) (hended : device ∈ w.ended) {access : Access}
    (haccess : access.handle ∈ device.handles) :
    access.run w.bus = (.error (.deviceClosed device.node.base), w.bus) := by
  have hbuilt := h.built device (h.mem_granted_of_ended hended)
  have hopening : access.opening = device.opening := hbuilt.opening_eq haccess
  have hclosed : w.bus.isClosed access.opening.number = true := by
    rw [hopening]
    exact h.isClosed_of_ended hended
  rw [Access.run_of_closed hclosed, hopening, hbuilt.base_eq]

theorem Accounts.number_ne (h : Accounts store w) {other : Device} (hdevice : device ∈ w.granted)
    (hother : other ∈ w.granted) (hne : other ≠ device) :
    other.opening.number ≠ device.opening.number := by
  intro hnumber
  have hnodup : (w.granted.map fun device => device.opening.number).Nodup := by
    rw [h.numbers]
    exact List.nodup_range
  exact hne (List.inj_on_of_nodup_map hnodup hother hdevice hnumber)

/-! ### Worlds that differ in one ended device -/

/-- The worlds are alike but for what the bus knows of one opening. -/
structure Beside (number : Nat) (v w : World) : Prop where
  bus : Bus.Beside number v.bus w.bus
  owned : v.owned = w.owned
  scopes : v.scopes = w.scopes

namespace Beside

variable {number : Nat} {v : World} {deed : Deed}

/-- A deed that is not done through the opening tells the same in both worlds and keeps them alike. -/
theorem step (h : Beside number v w)
    (hdeed : ∀ access, deed = .uses access → access.opening.number ≠ number) :
    v.reply deed = w.reply deed ∧ Beside number (v.step deed) (w.step deed) := by
  obtain ⟨hbus, howned, hscopes⟩ := h
  cases deed with
  | opens name id =>
      obtain ⟨outcome, left, right, hleft, hright, hafter⟩ := hbus.openDevice name id
      rw [World.step, World.step, reply, reply, hleft, hright]
      cases outcome with
      | error failure => exact ⟨rfl, hafter, howned, hscopes⟩
      | ok device => exact ⟨rfl, hafter, congrArg (device :: ·) howned, hscopes⟩
  | enters name id =>
      have hentered := hbus.record (.scopeEntered name id)
      obtain ⟨outcome, left, right, hleft, hright, hafter⟩ := hentered.openDevice name id
      rw [World.step, World.step, reply, reply, hleft, hright]
      cases outcome with
      | error failure => exact ⟨rfl, hafter, howned, hscopes⟩
      | ok device => exact ⟨rfl, hafter, howned, congrArg (device :: ·) hscopes⟩
  | closes device =>
      refine ⟨rfl, ?_⟩
      rw [World.step, World.step, ← howned]
      by_cases hmem : device ∈ v.owned
      · rw [if_pos hmem, if_pos hmem, closing_eq, closing_eq]
        exact ⟨hbus.teardown device, rfl, hscopes⟩
      · rw [if_neg hmem, if_neg hmem]
        exact ⟨hbus, howned, hscopes⟩
  | drops device =>
      refine ⟨rfl, ?_⟩
      rw [World.step, World.step, ← howned]
      by_cases hmem : device ∈ v.owned
      · rw [if_pos hmem, if_pos hmem]
        exact ⟨hbus.teardown device, rfl, hscopes⟩
      · rw [if_neg hmem, if_neg hmem]
        exact ⟨hbus, howned, hscopes⟩
  | leaves =>
      refine ⟨rfl, ?_⟩
      rw [World.step, World.step, ← hscopes]
      cases hinner : v.scopes with
      | nil => exact ⟨hbus, howned, hscopes⟩
      | cons device rest =>
          dsimp only
          rw [closing_eq, closing_eq]
          exact ⟨hbus.teardown device, howned, rfl⟩
  | uses access =>
      obtain ⟨hanswer, hafter⟩ := hbus.run (hdeed access rfl)
      exact ⟨congrArg Deed.Reply.answered hanswer, hafter, howned, hscopes⟩
  | changes change =>
      exact ⟨rfl, hbus.changes change, howned, hscopes⟩

/-- The worlds stay alike as long as nothing is done through the opening. -/
theorem run (h : Beside number v w) {later : List Deed}
    (hlater : ∀ access, .uses access ∈ later → access.opening.number ≠ number) :
    v.replies later = w.replies later ∧ Beside number (v.run later) (w.run later) := by
  induction later generalizing v w with
  | nil => exact ⟨rfl, h⟩
  | cons deed later ih =>
      obtain ⟨hreply, hnext⟩ := h.step fun access (hdeed : deed = .uses access) =>
        hlater access (hdeed ▸ List.mem_cons_self)
      obtain ⟨hreplies, hlast⟩ := ih hnext fun access hmem =>
        hlater access (List.mem_cons_of_mem deed hmem)
      refine ⟨?_, hlast⟩
      rw [replies, replies, hreply, hreplies]

end Beside

theorem ends_of_ended {deed : Deed} (hended : (w.step deed).ended = w.ended ++ [device]) :
    Ends w (w.step deed) device := by
  rcases ended_step_cases w deed with hsame | ⟨other, hmore, hend⟩
  · simp [hended] at hsame
  · cases List.append_cancel_left (hmore.symm.trans hended)
    exact hend

/-- **After the end of a device.** Every operation through a handle of its tree is refused with its
directory, now and at every later point, and changes nothing. To deeds through other handles, those of
other openings of the same device included, the end of the device makes no difference. -/
theorem closed_run (store : MemoryBus) (deeds : List Deed) :
    let w := (start store).run deeds
    (∀ device ∈ w.ended, ∀ (later : List Deed) (access : Access), access.handle ∈ device.handles →
      access.run (w.run later).bus =
        (.error (.deviceClosed device.node.base), (w.run later).bus)) ∧
    (∀ deed device, (w.step deed).ended = w.ended ++ [device] →
      ∀ later : List Deed, (∀ access, .uses access ∈ later → access.opening.number ≠ device.opening.number) →
        let told := w.step deed
        let untold := { told with bus := w.bus }
        told.replies later = untold.replies later ∧
          (told.run later).bus.store =
            (untold.run later).bus.store.withReleased (told.run later).bus.store.released) ∧
    ∀ device ∈ w.granted, ∀ other ∈ w.granted, other ≠ device →
      ∀ handle ∈ other.handles, handle.opening.number ≠ device.opening.number := by
  intro w
  have h : Accounts store w := accounts_run store deeds
  refine ⟨?_, ?_, ?_⟩
  · intro device hended later access haccess
    have hlater : Accounts store (w.run later) :=
      run_induction h (fun _ deed h => h.step deed) later
    exact hlater.run_of_ended (mem_ended_run hended later) haccess
  · intro deed device hended later hlater told untold
    have hbeside : Beside device.opening.number told untold := by
      obtain ⟨owned, scopes, hstep, -⟩ := ends_of_ended hended
      refine ⟨?_, rfl, rfl⟩
      show Bus.Beside _ (w.step deed).bus w.bus
      rw [hstep]
      exact Bus.Beside.of_teardown device w.bus
    obtain ⟨hreplies, hlast⟩ := hbeside.run hlater
    exact ⟨hreplies, hlast.bus.store⟩
  · intro device hdevice other hother hne handle hhandle
    rw [(h.built other hother).opening_eq hhandle]
    exact h.number_ne hdevice hother hne

theorem closed_run_bench :
    let w := (start benchStore).run [.opens "a" none, .opens "a" none]
    let told := w.step (.closes (benchDevice 1))
    (Access.enable (benchDevice 1).node).run told.bus =
        (.error (.deviceClosed benchBlueprint.base), told.bus) ∧
      told.replies [.uses (.enable (benchDevice 0).node)] = [.answered (.ok .done)] := by
  obtain ⟨hrefused, -, -⟩ := closed_run benchStore benchDeeds
  obtain ⟨-, hsame, hother⟩ := closed_run benchStore [.opens "a" none, .opens "a" none]
  have hswitch (number : Nat) :
      (benchDevice number).node.enableSwitch ∈ (benchDevice number).handles :=
    Device.mem_handles_of_mem_nodes List.mem_cons_self List.mem_cons_self
  refine ⟨?_, ?_⟩
  · exact hrefused (benchDevice 1) List.mem_cons_self [] (.enable (benchDevice 1).node) (hswitch 1)
  · refine (hsame (.closes (benchDevice 1)) (benchDevice 1) rfl _ ?_).1.trans rfl
    intro access hmem
    cases List.mem_singleton.mp hmem
    refine hother (benchDevice 1) ?_ (benchDevice 0) ?_ ?_ _ (hswitch 0)
    · exact List.mem_cons_of_mem _ List.mem_cons_self
    · exact List.mem_cons_self
    · intro hequal
      cases congrArg (fun device : Device => device.opening.number) hequal

end World

end DaqBus

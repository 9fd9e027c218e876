import DaqBus.Proofs.Text.Register
import DaqBus.Proofs.World.Basic

/-!
# Attributes are live

A file holds what was written last, through whichever handle and from whichever side, and a read tells
what the file holds. So the history of a path is all there is to know of its content, and likewise the
reads that were served are all there is to its count.
-/

namespace DaqBus

open Memory

/-- The content that a deed gives to a path. An operation gives none unless it succeeds. -/
def Deed.content? (path : String) (w : World) : Deed → Option Bytes
  | .uses access =>
    if access.path = path ∧ (access.run w.bus).1.isOk then access.written? else none
  | .changes change => change.content? path
  | .opens _ _ | .closes _ | .drops _ | .enters _ _ | .leaves => none

/-- Whether a deed reads the path and its file is there for it. -/
def Deed.isServed (path : String) (w : World) : Deed → Bool
  | .uses access => access.isRead && access.path == path && (access.served? w.bus).isSome
  | .changes _ | .opens _ _ | .closes _ | .drops _ | .enters _ _ | .leaves => false

namespace World

/-- The content that a run gives to a path, the latest if there are several. -/
def latest? (path : String) (w : World) : List Deed → Option Bytes
  | [] => none
  | deed :: rest => ((w.step deed).latest? path rest).or (deed.content? path w)

/-- How many reads of the path a run serves. -/
def served (path : String) (w : World) : List Deed → Nat
  | [] => 0
  | deed :: rest => (if deed.isServed path w then 1 else 0) + (w.step deed).served path rest

def file? (w : World) (path : String) : Option Bytes :=
  w.bus.store.file? path

variable {w : World} {path : String} {access : Access}

/-! ### One deed -/

/-- A deed that is no work on the store leaves the files and their counts. -/
theorem store_step {deed : Deed} (huses : ∀ access, deed ≠ .uses access)
    (hchanges : ∀ change, deed ≠ .changes change) :
    (w.step deed).bus.store = w.bus.store.withReleased (w.step deed).bus.store.released := by
  rcases step_cases w deed with ⟨log, hstep⟩ | ⟨device, _, _, _, _, _, -, hstep, -⟩ |
    ⟨device, _, _, hstep, -⟩ | ⟨access, rfl⟩ | ⟨change, rfl⟩
  · rw [hstep]
    rfl
  · rw [hstep]
    rfl
  · rw [hstep]
    exact device.store_teardown w.bus
  · exact absurd rfl (huses access)
  · exact absurd rfl (hchanges change)

theorem content?_of_served {file : File} (hserved : access.served? w.bus = some file) :
    Deed.content? path w (.uses access) = if access.path = path then access.written? else none := by
  rw [Deed.content?, Access.run_of_served hserved]
  cases hwritten : access.written? with
  | none => simp
  | some content =>
      rw [Access.answer_of_written hwritten]
      have hok : ((.ok .done : Except Errno Answer).mapError access.handle.refusal).isOk = true := rfl
      simp [hok]

theorem content?_of_unserved (hserved : access.served? w.bus = none) :
    Deed.content? path w (.uses access) = none := by
  obtain ⟨failure, hrun⟩ := Access.run_of_unserved hserved
  rw [Deed.content?, hrun]
  simp [Except.isOk, Except.toBool]

theorem file?_step (w : World) (deed : Deed) (path : String) :
    (w.step deed).file? path = (deed.content? path w).or (w.file? path) := by
  cases deed with
  | uses access =>
      rw [step, file?]
      cases hserved : access.served? w.bus with
      | none =>
          obtain ⟨failure, hrun⟩ := Access.run_of_unserved hserved
          rw [content?_of_unserved hserved, hrun]
          rfl
      | some file =>
          rw [content?_of_served hserved, Access.run_of_served hserved]
          dsimp only
          rw [MemoryBus.file?, Access.files_effect]
          by_cases hpath : access.path = path
          · subst hpath
            rw [if_pos rfl, if_pos rfl]
            cases access.written? <;> rfl
          · rw [if_neg (Ne.symm hpath), if_neg hpath]
            rfl
  | changes change => exact change.file?_apply w.bus.store path
  | opens | closes | drops | enters | leaves =>
      rw [file?, store_step (by simp) (by simp)]
      rfl

theorem readCount_step (w : World) (deed : Deed) (path : String) :
    (w.step deed).bus.store.readCount path =
      w.bus.store.readCount path + if deed.isServed path w then 1 else 0 := by
  cases deed with
  | uses access =>
      rw [step, Deed.isServed]
      cases hserved : access.served? w.bus with
      | none =>
          obtain ⟨failure, hrun⟩ := Access.run_of_unserved hserved
          simp [hrun]
      | some file =>
          rw [Access.run_of_served hserved]
          simp [Access.readCount_effect]
  | changes change => exact change.readCount_apply w.bus.store path
  | opens | closes | drops | enters | leaves =>
      rw [store_step (by simp) (by simp)]
      rfl

/-! ### Runs -/

theorem file?_run (w : World) (deeds : List Deed) (path : String) :
    (w.run deeds).file? path = (w.latest? path deeds).or (w.file? path) := by
  induction deeds generalizing w with
  | nil => rfl
  | cons deed rest ih => rw [run_cons, ih, file?_step, latest?, Option.or_assoc]

theorem readCount_run (w : World) (deeds : List Deed) (path : String) :
    (w.run deeds).bus.store.readCount path = w.bus.store.readCount path + w.served path deeds := by
  induction deeds generalizing w with
  | nil => rfl
  | cons deed rest ih => rw [run_cons, ih, readCount_step, served, Nat.add_assoc]

/-! ### Operations -/

/-- An operation that succeeds gives this answer, and it succeeds unless its handle is over or a failure
is set up for the path. -/
structure Shows (w : World) (access : Access) (answer : Answer) : Prop where
  of_ok : ∀ found, (access.run w.bus).1 = .ok found → found = answer
  ok : w.bus.isClosed access.opening.number = false →
    w.bus.store.failures.find? access.path = none → (access.run w.bus).1 = .ok answer

theorem file?_of_served {file : File} (hserved : access.served? w.bus = some file) :
    w.file? access.path = some file.content := by
  obtain ⟨-, hreach⟩ := Access.served?_eq_some_iff.mp hserved
  rw [file?, MemoryBus.file?, (MemoryBus.reach_eq_ok_iff.mp hreach).2, Option.map_some]

theorem exists_file_of_ok {answer : Answer} (hok : (access.run w.bus).1 = .ok answer) :
    ∃ content mode, w.file? access.path = some content ∧ access.answer content mode = .ok answer := by
  obtain ⟨file, hserved, hanswer⟩ := Access.exists_served_of_ok hok
  exact ⟨file.content, file.mode, file?_of_served hserved, hanswer⟩

theorem shows_of_file {content : Bytes} {answer : Answer} (hfile : w.file? access.path = some content)
    (hanswer : ∀ mode, access.answer content mode = .ok answer) : Shows w access answer := by
  constructor
  · intro found hok
    obtain ⟨held, mode, hheld, hfound⟩ := exists_file_of_ok hok
    cases hfile.symm.trans hheld
    exact Except.ok.inj (hfound.symm.trans (hanswer mode))
  · intro hopen hfailure
    obtain ⟨file, hfind, rfl⟩ := Option.map_eq_some_iff.mp hfile
    have hreach := MemoryBus.reach_eq_ok_iff.mpr ⟨hfailure, hfind⟩
    rw [Access.run_of_served (Access.served?_eq_some_iff.mpr ⟨hopen, hreach⟩), hanswer]
    rfl

theorem exists_replaced {content : Bytes} (hwritten : access.written? = some content)
    (hok : (access.run w.bus).1 = .ok .done) :
    ∃ file, w.bus.store.files.find? access.path = some file ∧
      (access.run w.bus).2.store = w.bus.store.replaced access.path file content := by
  obtain ⟨file, hserved, -⟩ := Access.exists_served_of_ok hok
  obtain ⟨-, hreach⟩ := Access.served?_eq_some_iff.mp hserved
  refine ⟨file, (MemoryBus.reach_eq_ok_iff.mp hreach).2, ?_⟩
  rw [Access.run_of_served hserved, Access.effect, hwritten]

/-- What was written is there as long as nothing else is. -/
theorem file?_of_kept {content : Bytes} (hwritten : access.written? = some content)
    (hok : (access.run w.bus).1 = .ok .done) {later : List Deed}
    (hkept : (w.step (.uses access)).latest? access.path later = none) :
    ((w.step (.uses access)).run later).file? access.path = some content := by
  obtain ⟨file, hserved, -⟩ := Access.exists_served_of_ok hok
  rw [file?_run, hkept, file?_step, content?_of_served hserved, if_pos rfl, hwritten]
  rfl

theorem unserved_of_failing (hfails : w.bus.store.failures.find? access.path ≠ none ∨
    w.bus.store.files.find? access.path = none) : access.served? w.bus = none := by
  rw [← Option.not_isSome_iff_eq_none, Option.isSome_iff_exists]
  rintro ⟨file, hserved⟩
  obtain ⟨-, hreach⟩ := Access.served?_eq_some_iff.mp hserved
  obtain ⟨hfailure, hfind⟩ := MemoryBus.reach_eq_ok_iff.mp hreach
  rcases hfails with hset | hmissing
  · exact hset hfailure
  · rw [hmissing] at hfind
    cases hfind

theorem isSome_files_run (w : World) (access : Access) (path : String) :
    ((access.run w.bus).2.store.files.find? path).isSome =
      (w.bus.store.files.find? path).isSome := by
  cases hserved : access.served? w.bus with
  | none =>
      obtain ⟨failure, hrun⟩ := Access.run_of_unserved hserved
      rw [hrun]
  | some file =>
      obtain ⟨-, hreach⟩ := Access.served?_eq_some_iff.mp hserved
      have hfind := (MemoryBus.reach_eq_ok_iff.mp hreach).2
      rw [Access.run_of_served hserved]
      dsimp only
      rw [Access.files_effect]
      by_cases hpath : path = access.path
      · subst hpath
        rw [if_pos rfl, hfind]
        cases access.written? <;> rfl
      · rw [if_neg hpath]

/-- **Attributes are live registers.** At every point of a run a file holds what it was given last, and
its count is that of the reads served. What succeeds tells what the file holds; a successful write
changes this content alone; what fails in the store changes nothing, and no operation makes a file. So a
number, or a text that fits, reads back until something else is written. -/
theorem live_run (w : World) (deeds : List Deed) :
    let v := w.run deeds
    (∀ path, v.file? path = (w.latest? path deeds).or (w.file? path)) ∧
    (∀ path, v.bus.store.readCount path = w.bus.store.readCount path + w.served path deeds) ∧
    (∀ (access : Access) (answer : Answer), (access.run v.bus).1 = .ok answer →
      ∃ content mode, v.file? access.path = some content ∧ access.answer content mode = .ok answer) ∧
    (∀ (access : Access) (content : Bytes), access.written? = some content →
      (access.run v.bus).1 = .ok .done →
      ∃ file, v.bus.store.files.find? access.path = some file ∧
        (access.run v.bus).2.store = v.bus.store.replaced access.path file content) ∧
    (∀ access : Access, v.bus.store.failures.find? access.path ≠ none ∨
        v.bus.store.files.find? access.path = none →
      ∃ failure, access.run v.bus = (.error failure, v.bus)) ∧
    (∀ (access : Access) (path : String), ((access.run v.bus).2.store.files.find? path).isSome =
      (v.bus.store.files.find? path).isSome) ∧
    (∀ (a b : Attribute) (value : UInt32) (later : List Deed), b.path = a.path →
      ((Access.write a value).run v.bus).1 = .ok .done →
      let u := v.step (.uses (.write a value))
      u.latest? a.path later = none → Shows (u.run later) (.read b) (.number value)) ∧
    ∀ (a b : Attribute) (text : String) (later : List Deed), b.path = a.path →
      text.utf8ByteSize ≤ Backend.textLimit → text.toList.getLast? ≠ some '\n' →
      ((Access.writeText a text).run v.bus).1 = .ok .done →
      let u := v.step (.uses (.writeText a text))
      u.latest? a.path later = none → Shows (u.run later) (.readText b) (.text text) := by
  intro v
  refine ⟨w.file?_run deeds, w.readCount_run deeds, fun access answer => exists_file_of_ok,
    fun access content => exists_replaced, ?_, v.isSome_files_run, ?_, ?_⟩
  · intro access hfails
    exact Access.run_of_unserved (unserved_of_failing hfails)
  · intro a b value later hpath hok u hkept
    have hwritten : (Access.write a value).written? =
        some (Text.Utf8.encode (toString value.toNat)) := rfl
    have hfile : (u.run later).file? a.path = _ := file?_of_kept hwritten hok hkept
    rw [← hpath] at hfile
    apply shows_of_file hfile
    intro mode
    rw [Access.answer, Attribute.numberOf?_encode]
    rfl
  · intro a b text later hpath hsize hlast hok u hkept
    have hwritten : (Access.writeText a text).written? = some (Text.Utf8.encode text) := rfl
    have hfile : (u.run later).file? a.path = _ := file?_of_kept hwritten hok hkept
    rw [← hpath] at hfile
    apply shows_of_file hfile
    intro mode
    rw [Access.answer, Attribute.textOf_encode hsize hlast]

def benchSwitch : Attribute :=
  (benchDevice 0).node.enableSwitch

theorem live_run_bench :
    let v := (start benchStore).run [.opens "a" none]
    let number := v.step (.uses (.write benchSwitch 7))
    let text := v.step (.uses (.writeText benchSwitch "up"))
    let later : List Deed := [.changes (.setMode benchSwitch.path 0o444), .opens "a" none]
    ((Access.read benchSwitch).run (number.run later).bus).1 = .ok (.number 7) ∧
      ((Access.readText benchSwitch).run (text.run later).bus).1 = .ok (.text "up") ∧
      ∃ failure, (Access.read ⟨"/", benchSwitch.opening⟩).run v.bus = (.error failure, v.bus) := by
  intro v number text later
  obtain ⟨-, -, -, -, hfails, -, hnumber, htext⟩ := live_run (start benchStore) [.opens "a" none]
  refine ⟨?_, ?_, ?_⟩
  · exact (hnumber benchSwitch benchSwitch 7 later rfl rfl rfl).ok rfl rfl
  · exact (htext benchSwitch benchSwitch "up" later rfl (by decide) (by decide) rfl rfl).ok rfl rfl
  · exact hfails _ (.inr rfl)

end World

end DaqBus
